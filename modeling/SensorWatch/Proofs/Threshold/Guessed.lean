import Mathlib.Data.List.Pairwise
import Mathlib.Data.List.Perm.Basic
import SensorWatch.Threshold

namespace SensorWatch

theorem Binary64.rank_injective : Function.Injective rank := by
  intro ⟨x⟩ ⟨y⟩ h
  have hx := x.toNat_lt
  have hy := y.toNat_lt
  rw [mk.injEq, ← UInt64.toNat_inj]
  unfold rank isNegative magnitude signUnit at h
  simp only [decide_eq_true_eq] at h
  split at h <;> split at h <;> omega

theorem Binary64.eq_of_perm_of_ranked {xs ys : List Binary64}
    (hx : xs.Pairwise (·.rank ≤ ·.rank)) (hy : ys.Pairwise (·.rank ≤ ·.rank)) (h : xs.Perm ys) :
    xs = ys := by
  refine h.eq_of_pairwise ?_ hx hy
  intro x y _ _ hxy hyx
  exact rank_injective (Int.le_antisymm hxy hyx)

theorem Binary64.le_of_rank_le {x y : Binary64} (hx : x.isNaN = false) (hy : y.isNaN = false)
    (h : x.rank ≤ y.rank) : x ≤ y := by
  refine ⟨hx, hy, ?_⟩
  unfold rank at h
  unfold ordinal
  split at h <;> split at h <;> grind

namespace Limits

def ascending (limits : Limits) : List Binary64 :=
  (limits.lower.toList.flatMap fun levels => [levels.crit, levels.warn])
    ++ limits.upper.toList.flatMap fun levels => [levels.warn, levels.crit]

-- Limits that are guessed from values: these are the levels, each of them once, in ascending order.
structure Guess (limits : Limits) (values : List Binary64) : Prop where
  isSome_upper : limits.upper.isSome ↔ values.length = 2 ∨ values.length = 4
  isSome_lower : limits.lower.isSome ↔ values.length = 4
  perm : limits.upper.isSome → limits.ascending.Perm values
  ranked : limits.ascending.Pairwise (·.rank ≤ ·.rank)

instance (limits : Limits) (values : List Binary64) : Decidable (limits.Guess values) :=
  decidable_of_iff
    ((limits.upper.isSome ↔ values.length = 2 ∨ values.length = 4)
      ∧ (limits.lower.isSome ↔ values.length = 4)
      ∧ (limits.upper.isSome → limits.ascending.Perm values)
      ∧ limits.ascending.Pairwise (·.rank ≤ ·.rank))
    ⟨fun ⟨hu, hl, hp, hr⟩ => ⟨hu, hl, hp, hr⟩, fun ⟨hu, hl, hp, hr⟩ => ⟨hu, hl, hp, hr⟩⟩

theorem eq_of_ascending_eq {limits limits' : Limits}
    (hu : limits.upper.isSome = limits'.upper.isSome)
    (hl : limits.lower.isSome = limits'.lower.isSome) (h : limits.ascending = limits'.ascending) :
    limits = limits' := by
  obtain ⟨upper, lower⟩ := limits
  obtain ⟨upper', lower'⟩ := limits'
  rcases upper with _ | ⟨_, _⟩ <;> rcases upper' with _ | ⟨_, _⟩ <;>
    rcases lower with _ | ⟨_, _⟩ <;> rcases lower' with _ | ⟨_, _⟩ <;> simp_all [ascending]

namespace Guess

variable {limits limits' : Limits} {values values' : List Binary64}

theorem of_perm (h : limits.Guess values) (hp : values.Perm values') : limits.Guess values' where
  isSome_upper := hp.length_eq ▸ h.isSome_upper
  isSome_lower := hp.length_eq ▸ h.isSome_lower
  perm hu := (h.perm hu).trans hp
  ranked := h.ranked

theorem ascending_eq_nil (h : limits.Guess values) (hu : limits.upper.isSome = false) :
    limits.ascending = [] := by
  have hl : limits.lower.isSome = false := by
    by_contra hl
    have h4 := h.isSome_lower.mp (eq_true_of_ne_false hl)
    exact absurd (h.isSome_upper.mpr (.inr h4)) (by simp [hu])
  rw [Option.isSome_eq_false_iff, Option.isNone_iff_eq_none] at hu hl
  rw [ascending, hu, hl]
  rfl

theorem unique (h : limits.Guess values) (h' : limits'.Guess values) : limits = limits' := by
  have hu : limits.upper.isSome = limits'.upper.isSome :=
    Bool.eq_iff_iff.mpr (h.isSome_upper.trans h'.isSome_upper.symm)
  have hl : limits.lower.isSome = limits'.lower.isSome :=
    Bool.eq_iff_iff.mpr (h.isSome_lower.trans h'.isSome_lower.symm)
  refine eq_of_ascending_eq hu hl ?_
  cases hs : limits.upper.isSome
  case true =>
    exact Binary64.eq_of_perm_of_ranked h.ranked h'.ranked <|
      (h.perm hs).trans (h'.perm (hu ▸ hs)).symm
  case false => rw [h.ascending_eq_nil hs, h'.ascending_eq_nil (hu ▸ hs)]

theorem mem_of_mem_ascending (h : limits.Guess values) {x : Binary64} (hx : x ∈ limits.ascending) :
    x ∈ values := by
  cases hu : limits.upper.isSome
  case true => exact (h.perm hu).mem_iff.mp hx
  case false => simp [h.ascending_eq_nil hu] at hx

theorem pairwise_le (h : limits.Guess values) (hn : ∀ x ∈ values, x.isNaN = false) :
    limits.ascending.Pairwise (· ≤ ·) := by
  refine h.ranked.imp_of_mem ?_
  intro x y hx hy hxy
  exact Binary64.le_of_rank_le (hn x (h.mem_of_mem_ascending hx)) (hn y (h.mem_of_mem_ascending hy))
    hxy

end Guess
end Limits

namespace Threshold

theorem magnitudes_perm_map (factor : Binary64) (ts : List Threshold) :
    (magnitudes factor ts).Perm (ts.map (·.value * factor)) :=
  List.mergeSort_perm ..

theorem ranked_magnitudes (factor : Binary64) (ts : List Threshold) :
    (magnitudes factor ts).Pairwise (·.rank ≤ ·.rank) := by
  have h : (magnitudes factor ts).Pairwise fun x y => decide (x.rank ≤ y.rank) :=
    List.pairwise_mergeSort (by grind) (by grind) _
  exact h.imp of_decide_eq_true

theorem guess_guessed (factor : Binary64) (ts : List Threshold) :
    (guessed factor ts).Guess (ts.map (·.value * factor)) := by
  have hr := ranked_magnitudes factor ts
  refine .of_perm ?_ (magnitudes_perm_map factor ts)
  unfold guessed
  generalize magnitudes factor ts = xs at hr ⊢
  split
  case h_1 => exact ⟨by simp, by simp, fun _ => .refl _, hr⟩
  case h_2 => exact ⟨by simp, by simp, fun _ => .refl _, hr⟩
  case h_3 h4 h2 =>
    have h2 : xs.length ≠ 2 := fun h => match xs, h with | [x, y], _ => h2 x y rfl
    have h4 : xs.length ≠ 4 := fun h => match xs, h with | [x, y, z, w], _ => h4 x y z w rfl
    exact ⟨by simp [h2, h4], by simp [h4], nofun, .nil⟩

theorem guessed_eq_of_guess {factor : Binary64} {ts : List Threshold} {guess : Limits}
    (h : guess.Guess (ts.map (·.value * factor))) : guessed factor ts = guess :=
  (guess_guessed factor ts).unique h

theorem guessed_eq_of_perm {ts ts' : List Threshold}
    (h : (ts.map (·.value)).Perm (ts'.map (·.value))) (factor : Binary64) :
    guessed factor ts = guessed factor ts' := by
  refine guessed_eq_of_guess ((guess_guessed factor ts').of_perm ?_)
  simpa only [List.map_map, Function.comp_def] using h.symm.map (· * factor)

-- The limits of optical sensors are guessed, and the scaled values leave room for one guess only.
-- So nothing counts but the values, however they are ordered and whatever is declared of them.
theorem values_decide_guess (factor : Binary64) (ts : List Threshold) :
    limits .dBm factor ts = guessed factor ts
      ∧ (∀ guess, guessed factor ts = guess ↔ guess.Guess (ts.map (·.value * factor)))
      ∧ ((∀ t ∈ ts, (t.value * factor).isNaN = false) →
          (guessed factor ts).ascending.Pairwise (· ≤ ·))
      ∧ ∀ ts' : List Threshold, (ts.map (·.value)).Perm (ts'.map (·.value)) →
          guessed factor ts = guessed factor ts'
            ∧ limits .dBm factor ts = limits .dBm factor ts' := by
  refine ⟨rfl, ?exact, ?le, ?perm⟩
  case exact =>
    intro guess
    constructor
    · intro h
      exact h ▸ guess_guessed factor ts
    · exact guessed_eq_of_guess
  case le =>
    intro h
    refine (guess_guessed factor ts).pairwise_le ?_
    simpa only [List.forall_mem_map] using h
  case perm =>
    intro ts' h
    exact ⟨guessed_eq_of_perm h factor, guessed_eq_of_perm h factor⟩

def darkPort : List Threshold :=
  [⟨none, none, .nan false⟩, ⟨some .major, some .lessThan, .zero true⟩,
    ⟨some .other, none, .infinity true⟩, ⟨none, some .equalTo, .zero false⟩]

def darkPortShuffled : List Threshold :=
  [⟨some .minor, none, .zero false⟩, ⟨none, none, .infinity true⟩, ⟨none, none, .nan false⟩,
    ⟨none, none, .zero true⟩]

def litPort : List Threshold :=
  [⟨some .other, none, .ofInt (-1000)⟩, ⟨some .other, none, .ofInt (-9000)⟩]

theorem darkPort_limits :
    let guess : Limits :=
      { upper := some ⟨.zero false, .nan false⟩, lower := some ⟨.zero true, .infinity true⟩ }
    (darkPort.map (·.value)).Perm (darkPortShuffled.map (·.value))
      ∧ limits .dBm (.ofInt 10) darkPort = guess ∧ limits .dBm (.ofInt 10) darkPortShuffled = guess
      ∧ (∀ t ∈ litPort, (t.value * .ofInt 10).isNaN = false)
      ∧ guessed (.ofInt 10) litPort = { upper := some ⟨.ofInt (-90000), .ofInt (-10000)⟩ }
      ∧ (guessed (.ofInt 10) litPort).ascending.Pairwise (· ≤ ·) := by
  intro guess
  have hp : (darkPort.map (·.value)).Perm (darkPortShuffled.map (·.value)) := by decide +kernel
  have hn : ∀ t ∈ litPort, (t.value * .ofInt 10).isNaN = false := by decide +kernel
  have ⟨_, he, _, hs⟩ := values_decide_guess (.ofInt 10) darkPort
  have ⟨_, hl, hle, _⟩ := values_decide_guess (.ofInt 10) litPort
  have hd : guessed (.ofInt 10) darkPort = guess := (he guess).mpr (by decide +kernel)
  exact ⟨hp, hd, (hs _ hp).2.symm.trans hd, hn, (hl _).mpr (by decide +kernel), hle hn⟩

end Threshold
end SensorWatch
