import SensorWatch.Proofs.ByName
import SensorWatch.Sample.Store

namespace SensorWatch.SampleStore

attribute [ext] SampleStore

variable (store : SampleStore) {key k : String} {sample : Sample} {base : ByName Sample}

theorem get?_set :
    (store.set key sample).get? k = (if key = k then some sample else none).or (store.get? k) :=
  ByName.getElem?_insert_or sample

theorem mem_written_set : k ∈ (store.set key sample).written ↔ key = k ∨ k ∈ store.written := by
  simp [set, Std.ExtTreeSet.mem_insert]

theorem get?_takeUpdates : store.takeUpdates.2.get? key = store.get? key :=
  rfl

theorem get?_ofList (seed : List (String × Sample)) :
    (ofList seed).get? key = (seed.filter (·.1 = key)).getLast?.map (·.2) :=
  ByName.getElem?_ofPairs seed

theorem mem_takeUpdates_iff :
    (key, sample) ∈ store.takeUpdates.1 ↔ key ∈ store.written ∧ store.get? key = some sample := by
  simp [takeUpdates, get?]

-- Samples and written keys are kept apart. What ties them together is that a written key always has
-- a sample: without it `takeUpdates` would drop the key.
def Backed : Prop :=
  ∀ key ∈ store.written, (store.get? key).isSome

theorem backed_of_written {store : SampleStore} (h : store.written = ∅) : store.Backed := by
  simp [Backed, h]

namespace Backed

variable {store}

theorem set (h : store.Backed) : (store.set key sample).Backed := by
  intro k hk
  rw [get?_set, Option.isSome_or]
  rcases store.mem_written_set.mp hk with he | hk
  · simp [he]
  · simp [h k hk]

theorem map_fst_takeUpdates (h : store.Backed) :
    store.takeUpdates.1.map (·.1) = store.written.toList := by
  rw [SampleStore.takeUpdates, List.map_filterMap]
  refine (List.filterMap_congr fun key hk => ?_).trans (List.filterMap_some ..)
  have ⟨sample, hs⟩ := Option.isSome_iff_exists.mp (h key (Std.ExtTreeSet.mem_toList.mp hk))
  rw [get?] at hs
  simp [hs]

end Backed

theorem pairwise_written : store.written.toList.Pairwise (· < ·) := by
  have h : store.written.toList.Pairwise fun a b => compare a b = .lt :=
    Std.ExtTreeSet.ordered_toList
  exact h.imp compareOfLessAndEq_eq_lt.mp

-- A store that was started with `base`: where nothing was written it still holds what it held.
structure Extends (base : ByName Sample) (store : SampleStore) : Prop where
  backed : store.Backed
  get?_eq (k : String) : k ∉ store.written → store.get? k = base[k]?

namespace Extends

variable {store}

theorem start (base : ByName Sample) : Extends base { samples := base } where
  backed := backed_of_written rfl
  get?_eq _ _ := rfl

theorem set (h : store.Extends base) : (store.set key sample).Extends base where
  backed := h.backed.set
  get?_eq k hk := by
    have ⟨hne, hk⟩ := not_or.mp (mt store.mem_written_set.mpr hk)
    rw [get?_set, if_neg hne, Option.none_or, h.get?_eq k hk]

-- The updates make up all the difference.
theorem foldl_insert_takeUpdates (h : Extends base store) :
    store.takeUpdates.1.foldl (fun rows (key, sample) => rows.insert key sample) base
      = store.samples := by
  apply Std.ExtTreeMap.ext_getElem?
  intro key
  rw [ByName.getElem?_foldl_insert]
  cases hl : (store.takeUpdates.1.filter (·.1 = key)).getLast?
  case none =>
    have hn : key ∉ store.written := by
      intro hw
      have ⟨sample, hs⟩ := Option.isSome_iff_exists.mp (h.backed key hw)
      have hm := store.mem_takeUpdates_iff.mpr ⟨hw, hs⟩
      simpa using List.filter_eq_nil_iff.mp (List.getLast?_eq_none_iff.mp hl) _ hm
    exact (h.get?_eq key hn).symm
  case some update =>
    have ⟨hm, hk⟩ := List.mem_filter.mp (List.mem_of_getLast? hl)
    have hs := (store.mem_takeUpdates_iff.mp hm).2
    rw [of_decide_eq_true hk] at hs
    exact hs.symm

end Extends

end SensorWatch.SampleStore
