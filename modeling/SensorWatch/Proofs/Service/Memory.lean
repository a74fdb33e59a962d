import Mathlib.Logic.Function.Basic
import SensorWatch.Proofs.Check.Temperature
import SensorWatch.Service.Basic

namespace SensorWatch

namespace SampleTable

variable (table : SampleTable) {host other : String} (updates : List (String × Sample))

theorem rowsOf_putAll_self :
    (table.putAll (updates.map fun (key, sample) => ⟨host, key, sample⟩)).rowsOf host
      = updates.foldl (fun rows (key, sample) => rows.insert key sample) (table.rowsOf host) := by
  induction updates generalizing table
  case nil => rfl
  case cons update updates ih =>
    have h := ih (table.put ⟨host, update.1, update.2⟩)
    rwa [rowsOf_put_self] at h

theorem rowsOf_putAll_of_ne (h : host ≠ other) :
    (table.putAll (updates.map fun (key, sample) => ⟨host, key, sample⟩)).rowsOf other
      = table.rowsOf other := by
  induction updates generalizing table
  case nil => rfl
  case cons update updates ih =>
    have ho := ih (table.put ⟨host, update.1, update.2⟩)
    rwa [rowsOf_put_of_ne _ h] at ho

end SampleTable

namespace TemperaturePoll

variable (poll : TemperaturePoll) (now : Instant) {store store' : SampleStore}

theorem extends_run {base : ByName Sample} (h : store.Extends base) :
    (poll.run now store).2.Extends base :=
  poll.resolved.extends_checkTemperatures _ _ _ h

theorem run_congr (h : store.samples = store'.samples) :
    (poll.run now store).1 = (poll.run now store').1
      ∧ (poll.run now store).2.samples = (poll.run now store').2.samples :=
  poll.resolved.checkTemperatures_congr _ _ _ h

theorem run_of_trend_none (h : poll.params.trend = none) (store : SampleStore) :
    poll.run now store = ((poll.run now {}).1, store) :=
  poll.resolved.checkTemperatures_of_trend_none _ _ _ h store

end TemperaturePoll

structure TimedPoll where
  now : Instant
  poll : TemperaturePoll

-- A store for every host, kept in memory from poll to poll.
abbrev Memory : Type :=
  String → SampleStore

namespace Memory

def serve (memory : Memory) (p : TimedPoll) : PollResult × Memory :=
  match Service.checkHost p.poll.host with
  | .error failure => (.error failure, memory)
  | .ok () =>
    let (verdicts, store) := p.poll.run p.now (memory p.poll.host)
    (.ok verdicts, Function.update memory p.poll.host store)

def serveAll : List TimedPoll → Memory → List PollResult × Memory
  | [], memory => ([], memory)
  | p :: ps, memory =>
    let (result, memory) := memory.serve p
    let (results, memory) := serveAll ps memory
    (result :: results, memory)

end Memory

namespace Service

def serveAll : List TimedPoll → SampleTable → List PollResult × SampleTable
  | [], table => ([], table)
  | p :: ps, table =>
    let outcome := pollTemperatures p.now none table p.poll
    let (results, table) := serveAll ps outcome.table
    (outcome.result :: results, table)

section

variable {poll : TemperaturePoll} (hc : checkHost poll.host = .ok ()) (now : Instant)
  (table : SampleTable)

include hc

theorem result_pollTemperatures :
    (pollTemperatures now none table poll).result
      = .ok (poll.run now (table.load poll.host)).1 := by
  rw [pollTemperatures, hc]
  cases ht : poll.params.trend
  case none =>
    rw [poll.run_of_trend_none now ht (table.load poll.host)]
    rfl
  case some => rfl

theorem table_pollTemperatures :
    (pollTemperatures now none table poll).table
      = table.putAll ((poll.run now (table.load poll.host)).2.takeUpdates.1.map
          fun (key, sample) => ⟨poll.host, key, sample⟩) := by
  rw [pollTemperatures, hc]
  cases ht : poll.params.trend
  case none =>
    rw [poll.run_of_trend_none now ht (table.load poll.host)]
    rfl
  case some => rfl

theorem rowsOf_pollTemperatures_self :
    (pollTemperatures now none table poll).table.rowsOf poll.host
      = (poll.run now (table.load poll.host)).2.samples := by
  rw [table_pollTemperatures hc, SampleTable.rowsOf_putAll_self]
  exact (poll.extends_run now (.start _)).foldl_insert_takeUpdates

end

theorem rowsOf_pollTemperatures_of_ne {poll : TemperaturePoll} {host : String}
    (h : poll.host ≠ host) (now : Instant) (table : SampleTable) :
    (pollTemperatures now none table poll).table.rowsOf host = table.rowsOf host := by
  cases hc : checkHost poll.host
  case error => rw [pollTemperatures, hc]
  case ok =>
    rw [table_pollTemperatures hc]
    exact table.rowsOf_putAll_of_ne _ h

def Agrees (table : SampleTable) (memory : Memory) : Prop :=
  ∀ host, table.rowsOf host = (memory host).samples

section

variable {table : SampleTable} {memory : Memory} (h : Agrees table memory) (p : TimedPoll)

include h

-- One poll: the results are the same, and table and memory agree again.
theorem Agrees.step :
    (pollTemperatures p.now none table p.poll).result = (memory.serve p).1
      ∧ Agrees (pollTemperatures p.now none table p.poll).table (memory.serve p).2 := by
  rw [Memory.serve]
  cases hc : checkHost p.poll.host
  case error failure =>
    rw [pollTemperatures, hc]
    exact ⟨rfl, h⟩
  case ok =>
    have hs : (table.load p.poll.host).samples = (memory p.poll.host).samples := h p.poll.host
    have ⟨hv, hr⟩ := p.poll.run_congr p.now hs
    rw [result_pollTemperatures hc, hv]
    refine ⟨rfl, fun host => ?_⟩
    by_cases ho : host = p.poll.host
    case pos =>
      subst ho
      simp only [Function.update_self]
      exact (rowsOf_pollTemperatures_self hc ..).trans hr
    case neg =>
      simp only [Function.update_of_ne ho]
      exact (rowsOf_pollTemperatures_of_ne (Ne.symm ho) ..).trans (h host)

theorem Agrees.run (ps : List TimedPoll) :
    (serveAll ps table).1 = (Memory.serveAll ps memory).1
      ∧ Agrees (serveAll ps table).2 (Memory.serveAll ps memory).2 := by
  induction ps generalizing table memory
  case nil => exact ⟨rfl, h⟩
  case cons p ps ih =>
    have ⟨hr, ha⟩ := h.step p
    have ⟨hrs, has⟩ := ih ha
    simp only [serveAll, Memory.serveAll, hr, hrs, true_and]
    exact has

end

def inletPoll (host degrees : String) (seconds : Int) : TimedPoll where
  now := ⟨seconds * 1000000000⟩
  poll := {
    host := host, tables := { envMon := [["1", "Inlet", degrees, "60", "1"]] },
    params := { trend := some { periodMinutes := 5 } } }

end Service
end SensorWatch
