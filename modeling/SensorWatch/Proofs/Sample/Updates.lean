import Mathlib.Data.List.DropRight
import SensorWatch.Proofs.Sample.Store

namespace SensorWatch

inductive StoreCall where
  | set (key : String) (sample : Sample)
  | get (key : String)
  | takeUpdates

namespace StoreCall

def run (store : SampleStore) : StoreCall → SampleStore
  | set key sample => store.set key sample
  | get _ => store
  | takeUpdates => store.takeUpdates.2

def runAll (calls : List StoreCall) (store : SampleStore) : SampleStore :=
  calls.foldl run store

def sample? (key : String) : StoreCall → Option Sample
  | set key' sample => if key' = key then some sample else none
  | _ => none

def isTake : StoreCall → Bool
  | takeUpdates => true
  | _ => false

def lastSet? (key : String) (calls : List StoreCall) : Option Sample :=
  (calls.filterMap (sample? key)).getLast?

def sinceTaken (calls : List StoreCall) : List StoreCall :=
  calls.rtakeWhile (!·.isTake)

def SetsKey (key : String) (calls : List StoreCall) : Prop :=
  ∃ call ∈ calls, (sample? key call).isSome

end StoreCall

namespace StoreCall

variable (store : SampleStore) (call : StoreCall) (calls : List StoreCall) (key : String)

theorem runAll_append : runAll (calls ++ [call]) store = call.run (runAll calls store) := by
  simp [runAll]

theorem lastSet?_append :
    lastSet? key (calls ++ [call]) = (sample? key call).or (lastSet? key calls) := by
  rw [lastSet?, lastSet?, List.filterMap_append, List.getLast?_append]
  cases h : sample? key call <;> simp [h]

theorem sinceTaken_append :
    sinceTaken (calls ++ [call]) = if call.isTake then [] else sinceTaken calls ++ [call] := by
  rw [sinceTaken, List.rtakeWhile_concat]
  cases call.isTake <;> rfl

theorem setsKey_append :
    SetsKey key (calls ++ [call]) ↔ SetsKey key calls ∨ (sample? key call).isSome := by
  simp [SetsKey, or_and_right, exists_or]

theorem get?_run : (call.run store).get? key = (sample? key call).or (store.get? key) := by
  cases call
  case set         => exact store.get?_set
  case get         => rfl
  case takeUpdates => exact store.get?_takeUpdates

theorem mem_written_run :
    key ∈ (call.run store).written ↔
      call.isTake = false ∧ (key ∈ store.written ∨ (sample? key call).isSome) := by
  cases call
  case set key' sample =>
    by_cases h : key' = key <;> simp [run, SampleStore.mem_written_set, isTake, sample?, h]
  case get => simp [run, isTake, sample?]
  case takeUpdates => simp [run, isTake, SampleStore.takeUpdates]

theorem backed_run {store : SampleStore} (h : store.Backed) : (call.run store).Backed := by
  cases call
  case set         => exact h.set
  case get         => exact h
  case takeUpdates => exact SampleStore.backed_of_written rfl

-- A run leaves under each key what it set there last,
theorem get?_runAll :
    (runAll calls store).get? key = (lastSet? key calls).or (store.get? key) := by
  induction calls using List.reverseRecOn
  case nil => rfl
  case append_singleton calls call ih =>
    rw [runAll_append, get?_run, lastSet?_append, ih, Option.or_assoc]

-- the keys that it set since updates were taken count as written,
theorem mem_written_runAll {store : SampleStore} (h : store.written = ∅) :
    key ∈ (runAll calls store).written ↔ SetsKey key (sinceTaken calls) := by
  induction calls using List.reverseRecOn
  case nil => simp [runAll, sinceTaken, SetsKey, h]
  case append_singleton calls call ih =>
    rw [runAll_append, mem_written_run, ih, sinceTaken_append]
    cases call.isTake
    case true  => simp [SetsKey]
    case false => simp [setsKey_append]

-- and each of these has a sample.
theorem backed_runAll {store : SampleStore} (h : store.Backed) : (runAll calls store).Backed := by
  induction calls using List.reverseRecOn
  case nil => exact h
  case append_singleton calls call ih =>
    rw [runAll_append]
    exact backed_run call ih

theorem isSome_lastSet?_of_setsKey (h : SetsKey key (sinceTaken calls)) :
    (lastSet? key calls).isSome := by
  have ⟨call, hc, hs⟩ := h
  have ⟨sample, hs⟩ := Option.isSome_iff_exists.mp hs
  have hm : call ∈ calls := (List.rtakeWhile_suffix _ _).subset hc
  rw [lastSet?, List.getLast?_isSome]
  exact List.ne_nil_of_mem (List.mem_filterMap.mpr ⟨call, hm, hs⟩)

-- Whatever was called, the keys that count as written are those that were set since updates were
-- last taken; each of them has a sample, so none is dropped when updates are taken. A look-up finds
-- the sample set last under the key, or else the last one that the store started with. The updates
-- come in the order of their keys, one for each written key, with the sample set last; and taking
-- them changes no look-up.
theorem updates_of_last_sets (seed : List (String × Sample)) (calls : List StoreCall) :
    let store := runAll calls (.ofList seed)
    store.Backed
      ∧ (∀ key, key ∈ store.written ↔ SetsKey key (sinceTaken calls))
      ∧ store.takeUpdates.1.map (·.1) = store.written.toList
      ∧ (∀ key, store.get? key
        = (lastSet? key calls).or ((seed.filter (·.1 = key)).getLast?.map (·.2)))
      ∧ (store.takeUpdates.1.map (·.1)).Pairwise (· < ·)
      ∧ (∀ key, key ∈ store.takeUpdates.1.map (·.1) ↔ SetsKey key (sinceTaken calls))
      ∧ (∀ key sample, (key, sample) ∈ store.takeUpdates.1 ↔
          SetsKey key (sinceTaken calls) ∧ lastSet? key calls = some sample)
      ∧ ∀ key, store.takeUpdates.2.get? key = store.get? key := by
  intro store
  have hb : store.Backed := backed_runAll calls (SampleStore.backed_of_written rfl)
  have hw (key : String) : key ∈ store.written ↔ SetsKey key (sinceTaken calls) :=
    mem_written_runAll calls key rfl
  have hk : store.takeUpdates.1.map (·.1) = store.written.toList := hb.map_fst_takeUpdates
  have hg (key : String) : store.get? key
      = (lastSet? key calls).or ((seed.filter (·.1 = key)).getLast?.map (·.2)) := by
    rw [get?_runAll, SampleStore.get?_ofList]
  refine ⟨hb, hw, hk, hg, ?order, ?keys, ?updates, fun key => store.get?_takeUpdates⟩
  case order =>
    rw [hk]
    exact store.pairwise_written
  case keys =>
    intro key
    rw [hk, Std.ExtTreeSet.mem_toList, hw]
  case updates =>
    intro key sample
    rw [SampleStore.mem_takeUpdates_iff, hw, hg]
    refine and_congr_right fun hs => ?_
    have ⟨last, hl⟩ := Option.isSome_iff_exists.mp (isSome_lastSet?_of_setsKey calls key hs)
    rw [hl, Option.some_or]

-- Of a seeded key, one that was taken before and one that was not, only the last has an update.
example (early late : Sample) :
    (runAll [.set "inlet" early, .takeUpdates, .set "outlet" early, .get "inlet",
      .set "outlet" late] (.ofList [("chassis", early)])).takeUpdates.1 = [("outlet", late)] := by
  rfl

end StoreCall
end SensorWatch
