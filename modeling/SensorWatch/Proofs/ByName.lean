import Mathlib.Data.Finset.Card
import Mathlib.Data.List.Induction
import Mathlib.Data.String.Basic
import Mathlib.Order.Bounds.Basic
import SensorWatch.ByName

namespace SensorWatch.ByName

variable {α β : Type} {table : ByName α} {key k : String}

theorem getElem?_insert_or (value : α) :
    (table.insert key value)[k]? = (if key = k then some value else none).or table[k]? := by
  rw [Std.ExtTreeMap.getElem?_insert]
  by_cases h : key = k <;> simp [h]

theorem getElem?_insertIfNew_or (value : α) :
    (table.insertIfNew key value)[k]? = table[k]?.or (if key = k then some value else none) := by
  rw [Std.ExtTreeMap.getElem?_insertIfNew]
  by_cases h : key = k
  case neg => simp [h]
  case pos =>
    subst h
    cases ht : table[key]? <;> simp [Std.ExtTreeMap.mem_iff_isSome_getElem?, ht]

theorem insertIfNew_eq_ite (value : α) :
    table.insertIfNew key value
      = if table.contains key then table else table.insert key value := by
  apply Std.ExtTreeMap.ext_getElem?
  intro k
  rw [Std.ExtTreeMap.contains_eq_isSome_getElem?, getElem?_insertIfNew_or]
  by_cases hk : key = k
  case pos =>
    subst hk
    cases h : table[key]? <;> simp [h]
  case neg =>
    rw [if_neg hk, Option.or_none]
    split
    case isTrue  => rfl
    case isFalse => simp [hk, getElem?_insert_or]

theorem getElem?_foldl_insert (pairs : List (String × α)) (table : ByName α) :
    (pairs.foldl (fun table (key, value) => table.insert key value) table)[key]?
      = ((pairs.filter (·.1 = key)).getLast?.map (·.2)).or table[key]? := by
  induction pairs using List.reverseRecOn
  case nil => simp
  case append_singleton pairs pair ih =>
    rw [List.foldl_append, List.foldl_cons, List.foldl_nil, getElem?_insert_or, ih]
    by_cases h : pair.1 = key <;> simp [h]

theorem getElem?_ofPairs (pairs : List (String × α)) :
    (ofPairs pairs)[key]? = (pairs.filter (·.1 = key)).getLast?.map (·.2) := by
  rw [ofPairs, getElem?_foldl_insert]
  simp

theorem getElem?_foldl_insertIfNew (name : β → String) (f : β → α) (xs : List β)
    (table : ByName α) (key : String) :
    (xs.foldl (fun table x => table.insertIfNew (name x) (f x)) table)[key]?
      = table[key]?.or ((xs.find? (name · = key)).map f) := by
  induction xs generalizing table
  case nil => simp
  case cons x xs ih =>
    rw [List.foldl_cons, ih, getElem?_insertIfNew_or, List.find?_cons, Option.or_assoc]
    by_cases h : name x = key <;> simp [h]

theorem mem_toList_iff {value : α} : (key, value) ∈ table.toList ↔ table[key]? = some value :=
  Std.ExtTreeMap.mem_toList_iff_getElem?_eq_some

theorem toList_ordered : table.toList.Pairwise fun a b => a.1 < b.1 := by
  have h : table.toList.Pairwise fun a b => compare a.1 b.1 = .lt :=
    Std.ExtTreeMap.ordered_keys_toList
  exact h.imp compareOfLessAndEq_eq_lt.mp

theorem find?_values {p : α → Bool} :
    table.values.find? p = (table.toList.find? (p ·.2)).map (·.2) :=
  List.find?_map ..

def keysWith (table : ByName α) (p : α → Bool) : Set String :=
  { key | ∃ value, table[key]? = some value ∧ p value }

theorem isLeast_of_find? {p : α → Bool} {pair : String × α}
    (h : table.toList.find? (p ·.2) = some pair) : IsLeast (table.keysWith p) pair.1 := by
  have ⟨hp, before, after, ht, hb⟩ := List.find?_eq_some_iff_append.mp h
  have hm : pair ∈ table.toList := List.mem_of_find?_eq_some h
  refine ⟨⟨pair.2, mem_toList_iff.mp hm, hp⟩, ?_⟩
  intro key ⟨value, hv, hpv⟩
  have ho := ht ▸ table.toList_ordered
  have hk := ht ▸ mem_toList_iff.mpr hv
  rcases List.mem_append.mp hk with hk | hk
  · simpa [hpv] using hb _ hk
  · rcases List.mem_cons.mp hk with hk | hk
    · exact (congrArg Prod.fst hk).ge
    · have := (List.pairwise_append.mp ho).2.1
      exact ((List.pairwise_cons.mp this).1 _ hk).le

theorem find?_toList_isSome {p : α → Bool} :
    (table.toList.find? (p ·.2)).isSome ↔ (table.keysWith p).Nonempty := by
  rw [List.find?_isSome]
  constructor
  · intro ⟨pair, hm, hp⟩
    exact ⟨pair.1, pair.2, mem_toList_iff.mp hm, hp⟩
  · intro ⟨key, value, hv, hp⟩
    exact ⟨(key, value), mem_toList_iff.mpr hv, hp⟩

-- The first value with a property is the one under the least key of such values.
theorem find?_values_eq_some_iff {p : α → Bool} {value : α} :
    table.values.find? p = some value ↔
      ∃ key, IsLeast (table.keysWith p) key ∧ table[key]? = some value := by
  rw [find?_values, Option.map_eq_some_iff]
  constructor
  · intro ⟨pair, h, hv⟩
    have hm := mem_toList_iff.mp (List.mem_of_find?_eq_some h)
    exact ⟨pair.1, isLeast_of_find? h, hv ▸ hm⟩
  · intro ⟨key, hl, hv⟩
    have ⟨pair, h⟩ := Option.isSome_iff_exists.mp (find?_toList_isSome.mpr ⟨key, hl.1⟩)
    have hk : pair.1 = key := (isLeast_of_find? h).unique hl
    have hm := mem_toList_iff.mp (List.mem_of_find?_eq_some h)
    rw [hk, hv] at hm
    exact ⟨pair, h, (Option.some.inj hm).symm⟩

theorem mem_values_iff {value : α} :
    value ∈ table.values ↔ ∃ key : String, table[key]? = some value := by
  simp [values]

theorem pairwise_lt_values {f : α → String}
    (h : ∀ (key : String) (value : α), table[key]? = some value → f value = key) :
    (table.values.map f).Pairwise (· < ·) := by
  rw [values, List.map_map, List.pairwise_map]
  refine table.toList_ordered.imp_of_mem ?_
  intro a b ha hb hlt
  rw [Function.comp_apply, Function.comp_apply, h _ _ (mem_toList_iff.mp ha),
    h _ _ (mem_toList_iff.mp hb)]
  exact hlt

theorem map_values_congr {f : α → β} {table' : ByName α}
    (h : ∀ key : String, table[key]?.map f = table'[key]?.map f) :
    table.values.map f = table'.values.map f := by
  have hm : (table.map fun _ => f) = table'.map fun _ => f := by
    apply Std.ExtTreeMap.ext_getElem?
    intro key
    rw [Std.ExtTreeMap.getElem?_map, Std.ExtTreeMap.getElem?_map, h]
  have hl := congrArg Std.ExtTreeMap.toList hm
  rw [Std.ExtTreeMap.toList_map, Std.ExtTreeMap.toList_map] at hl
  have hv := congrArg (List.map (·.2)) hl
  simpa [values, Function.comp_def] using hv

end SensorWatch.ByName
