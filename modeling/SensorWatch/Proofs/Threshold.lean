import SensorWatch.Proofs.Threshold.Marked

-- A list can not be put into another order if all but one of its elements are left out.
theorem List.Perm.filter_eq {α : Type} {xs ys : List α} {p : α → Bool} (h : xs.Perm ys)
    (hp : xs.Pairwise fun x y => p x → ¬p y) : xs.filter p = ys.filter p := by
  have hx : (xs.filter p).Pairwise fun _ _ => False :=
    List.pairwise_filter.mpr (hp.imp fun hxy hx hy => hxy hx hy)
  have hy : (ys.filter p).Pairwise fun _ _ => False :=
    ((h.filter p).pairwise_iff fun hf => hf).mp hx
  exact (h.filter p).eq_of_pairwise (fun _ _ _ _ hf _ => hf.elim) hx hy

namespace SensorWatch

def Levels.numbers (levels : Levels) : List Binary64 :=
  [levels.warn, levels.crit]

def Limits.numbers (limits : Limits) : List Binary64 :=
  (limits.upper.toList ++ limits.lower.toList).flatMap Levels.numbers

theorem Limits.mem_numbers_iff {limits : Limits} {x : Binary64} :
    x ∈ limits.numbers ↔
      ∃ levels, (limits.upper = some levels ∨ limits.lower = some levels) ∧ x ∈ levels.numbers := by
  simp [numbers, or_and_right, exists_or]

theorem Limits.mem_ascending_iff {limits : Limits} {x : Binary64} :
    x ∈ limits.ascending ↔ x ∈ limits.numbers := by
  obtain ⟨upper, lower⟩ := limits
  cases upper <;> cases lower <;> simp [ascending, numbers, Levels.numbers] <;> grind

namespace Threshold

section

variable {ts : List Threshold} {factor x : Binary64}

theorem exists_of_mem_marked? {relation : Relation} {levels : Levels}
    (h : marked? relation factor ts = some levels) (hx : x ∈ levels.numbers) :
    ∃ t ∈ ts, x = t.value * factor := by
  obtain ⟨warn, crit, hw, hc, rfl⟩ := marked?_eq_some_iff.mp h
  rcases List.mem_pair.mp hx with rfl | rfl
  case inl =>
    have ⟨t, ht, hv⟩ := exists_of_warn? hw
    exact ⟨t, ht, by rw [hv]⟩
  case inr =>
    have ⟨t, ht, hv⟩ := exists_of_crit? hc
    exact ⟨t, ht, by rw [hv]⟩

theorem exists_of_mem_guessed (h : x ∈ (guessed factor ts).numbers) :
    ∃ t ∈ ts, x = t.value * factor := by
  have hx := (guess_guessed factor ts).mem_of_mem_ascending (Limits.mem_ascending_iff.mpr h)
  have ⟨t, ht, hx⟩ := List.mem_map.mp hx
  exact ⟨t, ht, hx.symm⟩

theorem exists_of_mem_limits {quantity : Quantity} (h : x ∈ (limits quantity factor ts).numbers) :
    ∃ t ∈ ts, x = t.value * factor := by
  cases quantity
  case celsius =>
    rw [limits] at h
    split at h
    case isTrue =>
      obtain ⟨levels, hl | hl, hx⟩ := Limits.mem_numbers_iff.mp h
      all_goals exact exists_of_mem_marked? hl hx
    case isFalse =>
      obtain ⟨t, ht, hx⟩ := exists_of_mem_guessed h
      exact ⟨t, List.mem_of_mem_filter ht, hx⟩
  case dBm => exact exists_of_mem_guessed h
  all_goals simp [limits, Limits.numbers] at h

end

-- Thresholds that do not mark one and the same level.
def Apart (t u : Threshold) : Prop :=
  t.isGraded → t.severity = u.severity → t.relation ≠ u.relation

instance (t u : Threshold) : Decidable (t.Apart u) :=
  inferInstanceAs (Decidable (_ → _ → _))

variable {ts ts' : List Threshold} (h : ts.Perm ts')

include h

theorem guessed_perm (factor : Binary64) : guessed factor ts = guessed factor ts' :=
  guessed_eq_of_perm (h.map _) factor

variable (ha : ts.Pairwise Apart)

include ha

theorem marked?_perm (relation : Relation) (factor : Binary64) :
    marked? relation factor ts = marked? relation factor ts' := by
  refine marked?_congr ?_ factor
  intro severity hs
  rw [last?, last?, h.filter_eq (ha.imp ?_)]
  intro t u htu ht hu
  simp only [Bool.and_eq_true, decide_eq_true_eq] at ht hu
  refine htu ?_ (ht.1.trans hu.1.symm) (ht.2.trans hu.2.symm)
  cases severity <;> simp_all [isGraded]

theorem limits_perm (quantity : Quantity) (factor : Binary64) :
    limits quantity factor ts = limits quantity factor ts' := by
  cases quantity
  case celsius =>
    simp only [limits, h.any_eq, marked?_perm h ha, guessed_perm (h.filter _)]
  case dBm => exact guessed_perm h factor
  all_goals rfl

end Threshold
end SensorWatch
