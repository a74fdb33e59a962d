import SensorWatch.Proofs.Check.Items
import SensorWatch.Proofs.Service.Memory

namespace SensorWatch

namespace TemperaturePoll

variable (poll : TemperaturePoll) (now : Instant)

def withItems (items : List String) : TemperaturePoll :=
  { poll with items := some items }

def untrended : TemperaturePoll :=
  { poll with params := poll.params.untrended }

theorem run_withItems_snd {items : List String} (h : items.Perm poll.targets)
    (store : SampleStore) : ((poll.withItems items).run now store).2 = (poll.run now store).2 :=
  poll.resolved.checkTemperatures_snd_perm _ _ h store

end TemperaturePoll

namespace Service

-- Items of one poll do not get in each other's way: if none of them repeats, each has the result
-- that it also gets in a poll of its own, and the sample that counts for it is the one that was in
-- the table before the poll. Polls of the items in any order are answered with these results in the
-- same order, and leave the same samples in the table.
theorem itemwise_results {poll : TemperaturePoll} (hc : checkHost poll.host = .ok ())
    (hn : poll.targets.Nodup) (now : Instant) (table : SampleTable) :
    let result (item : String) : Option Verdict :=
      (poll.resolved.checkTemperature poll.params now item (table.load poll.host)).1
    (∀ item, (pollTemperatures now none table (poll.withItems [item])).result
        = .ok ((result item).map (item, ·)).toList)
      ∧ (pollTemperatures now none table poll).result
        = .ok (poll.targets.filterMap fun item => (result item).map (item, ·))
      ∧ ∀ items : List String, items.Perm poll.targets →
          (pollTemperatures now none table (poll.withItems items)).result
            = .ok (items.filterMap fun item => (result item).map (item, ·))
          ∧ (pollTemperatures now none table (poll.withItems items)).table
            = (pollTemperatures now none table poll).table := by
  intro result
  let store := table.load poll.host
  have hw (items : List String) : checkHost (poll.withItems items).host = .ok () := hc
  have hv (items : List String) (h : items.Nodup) :
      (poll.resolved.checkTemperatures poll.params now items store).1
        = items.filterMap fun item => (result item).map (item, ·) :=
    poll.resolved.checkTemperatures_fst_of_nodup poll.params now h store
  refine ⟨fun item => ?alone, ?poll, fun items hp => ⟨?ordered, ?table⟩⟩
  case alone =>
    rw [result_pollTemperatures (hw [item])]
    exact congrArg Except.ok (List.append_nil _)
  case poll =>
    rw [result_pollTemperatures hc]
    exact congrArg Except.ok (hv poll.targets hn)
  case ordered =>
    rw [result_pollTemperatures (hw items)]
    exact congrArg Except.ok (hv items (hp.nodup_iff.mpr hn))
  case table =>
    have hs : ((poll.withItems items).run now (table.load (poll.withItems items).host)).2
        = (poll.run now store).2 := poll.run_withItems_snd now hp store
    rw [table_pollTemperatures (hw items), table_pollTemperatures hc, hs]
    rfl

def rackPoll : TemperaturePoll where
  host := "rack"
  tables := { envMon := [["1", "Inlet", "31", "60", "1"], ["2", "Outlet", "45", "60", "1"]] }
  params := { trend := some { periodMinutes := 5 } }

def rackTable : SampleTable :=
  (pollTemperatures ⟨0⟩ none {} (rackPoll.withItems ["Inlet"])).table

theorem rackPoll_itemwise :
    let serve (items : List String) :=
      pollTemperatures ⟨120000000000⟩ none rackTable (rackPoll.withItems items)
    checkHost rackPoll.host = .ok () ∧ rackPoll.targets = ["Inlet", "Outlet"]
      ∧ (serve ["Outlet", "Inlet"]).table = (serve ["Inlet", "Outlet"]).table
      ∧ ∃ inlet outlet : Verdict,
          (serve ["Inlet"]).result = .ok [("Inlet", inlet)]
          ∧ (serve ["Outlet", "Inlet"]).result = .ok [("Outlet", outlet), ("Inlet", inlet)]
          ∧ inlet.summary = "31.0 °C, rate: +0.0 °C per 5 min" ∧ outlet.summary = "45.0 °C" := by
  intro serve
  let result (item : String) : Option Verdict :=
    (rackPoll.resolved.checkTemperature rackPoll.params ⟨120000000000⟩ item (rackTable.load "rack")).1
  have hc : checkHost rackPoll.host = .ok () := by decide +kernel
  have ht : rackPoll.targets = ["Inlet", "Outlet"] := by decide +kernel
  have ⟨inlet, hi, his⟩ := Option.map_eq_some_iff.mp <|
    show (result "Inlet").map (·.summary) = some "31.0 °C, rate: +0.0 °C per 5 min" by
      decide +kernel
  have ⟨outlet, ho, hos⟩ := Option.map_eq_some_iff.mp <|
    show (result "Outlet").map (·.summary) = some "45.0 °C" by decide +kernel
  have ⟨ha, _, hp⟩ := itemwise_results hc (by rw [ht]; decide) ⟨120000000000⟩ rackTable
  have ⟨hr, hs⟩ := hp ["Outlet", "Inlet"] (by rw [ht]; exact .swap ..)
  have ⟨_, hs'⟩ := hp ["Inlet", "Outlet"] (.of_eq ht.symm)
  refine ⟨hc, ht, hs.trans hs'.symm, inlet, outlet, (ha "Inlet").trans ?_, hr.trans ?_, his, hos⟩
  · exact congrArg (fun r : Option Verdict => Except.ok (r.map ("Inlet", ·)).toList) hi
  · change Except.ok ([("Outlet", result "Outlet"), ("Inlet", result "Inlet")].filterMap
      fun r => r.2.map (r.1, ·)) = _
    rw [hi, ho]
    rfl

-- Where a host has no samples of the items to check, an answer does not tell whether trends were
-- asked for.
theorem response_eq_untrended {poll : TemperaturePoll} {table : SampleTable}
    (h : ∀ item ∈ poll.targets, (table.rowsOf poll.host)[trendKey item]? = none) (now : Instant) :
    (pollTemperatures now none table poll).response
      = (pollTemperatures now none table poll.untrended).response := by
  refine congrArg Response.ofResult ?_
  cases hc : checkHost poll.host
  case error failure =>
    have hu : checkHost poll.untrended.host = .error failure := hc
    rw [pollTemperatures, pollTemperatures, hc, hu]
  case ok =>
    have hu : checkHost poll.untrended.host = .ok () := hc
    rw [result_pollTemperatures hc, result_pollTemperatures hu]
    refine congrArg Except.ok <| poll.resolved.checkTemperatures_untrended poll.params ?_ _
    intro item hi sample hs
    rw [SampleStore.get?, SampleTable.load, h item hi] at hs
    cases hs

theorem inletPoll_untrended :
    let poll := (inletPoll "switch" "31" 0).poll.withItems ["Inlet", "Inlet"]
    (∀ item ∈ poll.targets, (SampleTable.rowsOf {} poll.host)[trendKey item]? = none)
      ∧ (pollTemperatures ⟨0⟩ none {} poll).response
        = (pollTemperatures ⟨0⟩ none {} poll.untrended).response := by
  intro poll
  have h : ∀ item ∈ poll.targets, (SampleTable.rowsOf {} poll.host)[trendKey item]? = none := by
    decide +kernel
  exact ⟨h, response_eq_untrended h ⟨0⟩⟩

end Service
end SensorWatch
