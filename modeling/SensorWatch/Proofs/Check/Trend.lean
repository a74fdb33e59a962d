import Mathlib.Data.List.Induction
import SensorWatch.Proofs.Check.Temperature

namespace SensorWatch

-- An elapsed time is rounded toward zero, so less than a millisecond counts as none.
theorem Instant.millisSince_pos_iff {later earlier : Instant} :
    0 < later.millisSince earlier ↔ earlier.nanos + 1000000 ≤ later.nanos := by
  rw [millisSince, Int.tdiv_eq_ediv, Int.sign_eq_one_of_pos (by decide)]
  split <;> omega

-- The samples that a rate to an instant can go from: those older by a whole millisecond at least.
def Sample.isBefore (now : Instant) (earlier : Sample) : Bool :=
  earlier.time.nanos + 1000000 ≤ now.nanos

namespace Sensor

variable {sensor : Sensor} {params : TemperatureParams} {now : Instant} {sample : Sample}

theorem measured_of_sample? (h : sensor.sample? params now = some sample) :
    sensor.measured = .ok sample.value ∧ sample.time = now := by
  rw [sample?, Option.ite_none_left_eq_some, Option.map_eq_some_iff] at h
  obtain ⟨ho, value, hr, hs⟩ := h
  simp only [Bool.or_eq_true, not_or, Bool.not_eq_true] at ho
  rw [measured, hr, ← hs]
  simp [ho.1]

end Sensor

structure TemperatureCheck where
  tables : Tables
  params : TemperatureParams
  item : String
  now : Instant

namespace TemperatureCheck

variable (c : TemperatureCheck) (store : SampleStore)

def run : Option Verdict × SampleStore :=
  (Section.ofTables c.tables).checkTemperature c.params c.now c.item store

def sample? : Option Sample :=
  (Section.ofTables c.tables).sample? c.params c.now c.item

def untrended : TemperatureCheck :=
  { c with params := { c.params with trend := none } }

def runAll (checks : List TemperatureCheck) (store : SampleStore) : SampleStore :=
  checks.foldl (fun store c => (c.run store).2) store

def lastSample? (checks : List TemperatureCheck) (item : String) : Option Sample :=
  ((checks.filter (·.item = item)).filterMap (·.sample?)).getLast?

theorem run_snd : (c.run store).2 = store.record (trendKey c.item) c.sample? := by
  rw [run, Section.checkTemperature_eq, sample?]

section

variable (checks : List TemperatureCheck) (item : String)

theorem runAll_append : runAll (checks ++ [c]) store = (c.run (runAll checks store)).2 := by
  simp [runAll]

theorem lastSample?_append :
    lastSample? (checks ++ [c]) item
      = (if c.item = item then c.sample? else none).or (lastSample? checks item) := by
  rw [lastSample?, lastSample?, List.filter_append, List.filterMap_append, List.getLast?_append]
  by_cases hi : c.item = item
  case neg => simp [hi]
  case pos => cases hs : c.sample? <;> simp [hi, hs]

-- The invariant of a run: the sample under the key of an item is the last one of the item.
theorem get?_runAll :
    (runAll checks store).get? (trendKey item)
      = (lastSample? checks item).or (store.get? (trendKey item)) := by
  induction checks using List.reverseRecOn
  case nil => rfl
  case append_singleton checks c ih =>
    rw [runAll_append, run_snd, SampleStore.get?_record, lastSample?_append, ih, Option.or_assoc]
    simp only [trendKey_injective.eq_iff]

end

def inlet (degrees : String) (seconds : Int) : TemperatureCheck where
  tables := { envMon := [["1", "Inlet", degrees, "60", "1"]] }
  params := { trend := some { periodMinutes := 5 } }
  item := "Inlet"
  now := ⟨seconds * 1000000000⟩

end TemperatureCheck
end SensorWatch
