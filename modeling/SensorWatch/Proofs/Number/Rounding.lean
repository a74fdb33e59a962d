import Mathlib.Algebra.Group.Even
import Mathlib.Tactic.Ring
import SensorWatch.Number.Arithmetic

namespace SensorWatch

theorem le_roundedQuotient (num den : Nat) : num / den ≤ roundedQuotient num den := by
  unfold roundedQuotient
  grind

theorem roundedQuotient_le (num den : Nat) : roundedQuotient num den ≤ num / den + 1 := by
  unfold roundedQuotient
  grind

theorem roundedQuotient_lt_iff {num den n : Nat} (hd : 0 < den) (hn : Even n) :
    roundedQuotient num den < n ↔ 2 * num + den < 2 * n * den := by
  have hq := Nat.div_add_mod num den
  have hr := Nat.mod_lt num hd
  have hl := le_roundedQuotient num den
  have hu := roundedQuotient_le num den
  rcases Nat.lt_trichotomy (num / den + 1) n with h | h | h
  · have hm : den * (num / den + 2) ≤ den * n := Nat.mul_le_mul_left den h
    grind
  · have ho : num / den % 2 = 1 := by grind
    have hm : den * (num / den + 1) = den * n := by rw [h]
    have hc : roundedQuotient num den < n ↔ 2 * (num % den) < den := by
      unfold roundedQuotient
      grind
    rw [hc]
    grind
  · have hm : den * n ≤ den * (num / den) := Nat.mul_le_mul_left den (by omega)
    grind

section

variable {a b i j : Nat}

theorem shiftLeft_pos (h : 0 < a) (i : Nat) : 0 < a <<< i := by
  rw [Nat.shiftLeft_eq]
  exact Nat.mul_pos h (Nat.two_pow_pos i)

theorem shiftLeft_le_shiftLeft (h : a ≤ b) (hij : i ≤ j) : a <<< i ≤ b <<< j := by
  rw [Nat.shiftLeft_eq, Nat.shiftLeft_eq]
  exact Nat.mul_le_mul h (Nat.pow_le_pow_right Nat.two_pos hij)

theorem shiftLeft_lt_shiftLeft (h : a < b) (i : Nat) : a <<< i < b <<< i := by
  rw [Nat.shiftLeft_eq, Nat.shiftLeft_eq]
  exact Nat.mul_lt_mul_of_pos_right h (Nat.two_pow_pos i)

theorem two_mul_shiftLeft_le (a : Nat) (h : i < j) : 2 * a <<< i ≤ a <<< j :=
  Nat.shiftLeft_succ a i ▸ shiftLeft_le_shiftLeft le_rfl h

theorem shiftLeft_mul_comm (a b i : Nat) : a <<< i * b = a * b <<< i := by
  rw [Nat.shiftLeft_eq, Nat.shiftLeft_eq]
  ring

end

namespace Binary64

-- How far a denominator is shifted for the quotient to have no more than 53 bits.
def shift (num den : Nat) : Nat :=
  (num / den).log2 - 52

-- The magnitude that a quotient is rounded to where there is no largest one.
def rounded (num den : Nat) : Nat :=
  shift num den * binade + roundedQuotient num (den <<< shift num den)

section

variable {num den : Nat}

theorem lt_shiftLeft_mul (num : Nat) (hd : 0 < den) : num < den <<< shift num den * (2 * binade) := by
  calc num
    _ < 2 ^ ((num / den).log2 + 1) * den := (Nat.div_lt_iff_lt_mul hd).mp Nat.lt_log2_self
    _ ≤ 2 ^ (shift num den + 53) * den :=
      Nat.mul_le_mul_right den <| Nat.pow_le_pow_right Nat.two_pos (by unfold shift; omega)
    _ = den <<< shift num den * (2 * binade) := by
      rw [Nat.shiftLeft_eq, Nat.pow_add, binade]
      ring

theorem shiftLeft_mul_le (h : 0 < shift num den) : den <<< shift num den * binade ≤ num := by
  unfold shift at h ⊢
  have hq : num / den ≠ 0 := by
    intro hq
    simp [hq] at h
  calc den <<< ((num / den).log2 - 52) * binade
    _ = 2 ^ ((num / den).log2 - 52 + 52) * den := by
      rw [Nat.shiftLeft_eq, Nat.pow_add, binade]
      ring
    _ = 2 ^ (num / den).log2 * den := by rw [Nat.sub_add_cancel (by omega)]
    _ ≤ num / den * den := Nat.mul_le_mul_right den (Nat.log2_self_le hq)
    _ ≤ num := Nat.div_mul_le_self num den

theorem binade_le_roundedQuotient (hd : 0 < den) (h : 0 < shift num den) :
    binade ≤ roundedQuotient num (den <<< shift num den) :=
  Nat.le_trans ((Nat.le_div_iff_mul_le (shiftLeft_pos hd _)).mpr <|
    Nat.mul_comm binade _ ▸ shiftLeft_mul_le h) (le_roundedQuotient ..)

theorem roundedQuotient_le_two_mul_binade (num : Nat) (hd : 0 < den) :
    roundedQuotient num (den <<< shift num den) ≤ 2 * binade :=
  Nat.le_trans (roundedQuotient_le ..) (Nat.div_lt_of_lt_mul (lt_shiftLeft_mul num hd))

-- A binade ends with a power of two. What is less than half a step below it is rounded to less.
theorem rounded_lt_iff (hd : 0 < den) (j : Nat) :
    rounded num den < (j + 2) * binade ↔ 2 * num + den <<< j < 4 * binade * den <<< j := by
  have hb : 0 < binade := by decide
  have hp := shiftLeft_pos hd j
  have hlt := lt_shiftLeft_mul num hd
  have hle (h : 0 < shift num den) := shiftLeft_mul_le h
  have hbq (h : 0 < shift num den) := binade_le_roundedQuotient hd h
  have hqb := roundedQuotient_le_two_mul_binade num hd
  unfold rounded
  generalize binade = b, shift num den = k at *
  rcases Nat.lt_trichotomy k j with h | h | h
  case inl =>
    have hk := Nat.mul_le_mul_right b (Nat.succ_le_of_lt h)
    have hj := Nat.mul_le_mul_right (2 * b) (two_mul_shiftLeft_le den h)
    have hs : den <<< j ≤ den <<< j * b := Nat.le_mul_of_pos_right _ hb
    refine iff_of_true ?_ ?_
    · grind
    · grind
  case inr.inl =>
    subst h
    rw [Nat.add_mul, Nat.add_lt_add_iff_left, roundedQuotient_lt_iff hp (even_two_mul _),
      show 2 * (2 * b) = 4 * b by omega]
  case inr.inr =>
    have hk := Nat.mul_le_mul_right b (Nat.succ_le_of_lt h)
    have hj := Nat.mul_le_mul_right b (two_mul_shiftLeft_le den h)
    have hq := hbq (by omega)
    have hm := hle (by omega)
    refine iff_of_false ?_ ?_
    · grind
    · grind

end

theorem magnitude_ofMagnitude (negative : Bool) {m : Nat} (h : m < signUnit) :
    (ofMagnitude negative m).magnitude = m := by
  unfold magnitude ofMagnitude
  unfold signUnit at h ⊢
  rw [UInt64.toNat_ofNat']
  cases negative
  all_goals
    simp only [Bool.false_eq_true, if_false, if_true]
    omega

variable (negative : Bool) {num den : Nat}

theorem magnitude_nearest :
    (nearest negative num den).magnitude = min (rounded num den) infinityMagnitude :=
  magnitude_ofMagnitude negative <| Nat.lt_of_le_of_lt (Nat.min_le_right ..) (by decide)

-- A magnitude holds the steps of 2^-1074 that make up a number: up to 53 bits of them, and how far
-- these are shifted.
theorem units_eq {x : Binary64} {k f : Nat} (hx : x.magnitude = k * binade + f)
    (hl : 0 < k → binade ≤ f) (hu : f ≤ 2 * binade) : x.units = f <<< k := by
  have hb : 0 < binade := by decide
  have hdm (q r : Nat) (hr : r < binade) (h : x.magnitude = r + q * binade) :
      x.units = if q = 0 then r else (binade + r) <<< (q - 1) := by
    simp only [units, h, Nat.add_mul_div_right _ _ hb, Nat.add_mul_mod_self_right,
      Nat.div_eq_of_lt hr, Nat.mod_eq_of_lt hr, Nat.zero_add]
  generalize binade = b at *
  by_cases hf : f < b
  case pos =>
    obtain rfl : k = 0 := by omega
    rw [hdm 0 f hf (by omega), if_pos rfl, Nat.shiftLeft_zero]
  case neg =>
    obtain ⟨r, rfl⟩ := Nat.exists_eq_add_of_le (Nat.le_of_not_lt hf)
    rcases Nat.lt_or_ge r b with hr | hr
    case inl => rw [hdm (k + 1) r hr (by grind), if_neg k.succ_ne_zero, Nat.add_sub_cancel]
    case inr =>
      obtain rfl : r = b := by omega
      rw [hdm (k + 2) 0 hb (by grind), if_neg (by omega), Nat.add_zero, ← Nat.two_mul]
      exact Nat.shiftLeft_succ_inside r k

theorem exists_units (x : Binary64) : ∃ k f, x.magnitude = k * binade + f ∧ (0 < k → binade ≤ f)
    ∧ f < 2 * binade ∧ x.units = f <<< k := by
  have hm := Nat.div_add_mod x.magnitude binade
  have hr := Nat.mod_lt x.magnitude (show 0 < binade by decide)
  generalize x.magnitude / binade = q, x.magnitude % binade = r at hm hr
  cases q
  case zero =>
    have hx : x.magnitude = 0 * binade + r := by grind
    exact ⟨0, r, hx, by omega, by omega, units_eq hx (by omega) (by omega)⟩
  case succ q =>
    have hx : x.magnitude = q * binade + (binade + r) := by grind
    exact ⟨q, binade + r, hx, by omega, by omega, units_eq hx (by omega) (by omega)⟩

theorem units_lt {x : Binary64} {j : Nat} (h : x.magnitude < (j + 1) * binade) :
    x.units < binade <<< j := by
  obtain ⟨k, f, hx, hl, hf, hu⟩ := exists_units x
  rw [hu]
  generalize binade = b at *
  rcases Nat.lt_trichotomy k j with hk | rfl | hk
  case inl =>
    calc f <<< k
      _ < (2 * b) <<< k := shiftLeft_lt_shiftLeft hf k
      _ = b <<< (k + 1) := (Nat.shiftLeft_succ_inside b k).symm
      _ ≤ b <<< j := shiftLeft_le_shiftLeft le_rfl hk
  case inr.inl => exact shiftLeft_lt_shiftLeft (by grind) k
  case inr.inr =>
    have hj := Nat.mul_le_mul_right b (Nat.succ_le_of_lt hk)
    grind

theorem le_units {x : Binary64} {j : Nat} (h : (j + 1) * binade ≤ x.magnitude) :
    binade <<< j ≤ x.units := by
  obtain ⟨k, f, hx, hl, hf, hu⟩ := exists_units x
  rw [hu]
  generalize binade = b at *
  rcases Nat.lt_or_ge k j with hk | hk
  case inl =>
    have hj := Nat.mul_le_mul_right b (Nat.succ_le_of_lt hk)
    grind
  case inr =>
    refine shiftLeft_le_shiftLeft ?_ hk
    grind

theorem units_nearest (hd : 0 < den) (hf : rounded num den ≤ infinityMagnitude) :
    (nearest negative num den).units
      = roundedQuotient num (den <<< shift num den) <<< shift num den := by
  refine units_eq ?_ (binade_le_roundedQuotient hd) (roundedQuotient_le_two_mul_binade num hd)
  rw [magnitude_nearest, Nat.min_eq_left hf, rounded]

-- Rounding adds no more than one part in 2^52 to what has that many steps.
theorem units_nearest_mul_le (hd : 0 < den) (hf : rounded num den ≤ infinityMagnitude)
    (hn : den * binade ≤ num) :
    (nearest negative num den).units * (den * binade) ≤ num * (binade + 1) := by
  rw [units_nearest negative hd hf]
  have hs : den <<< shift num den * binade ≤ num := by
    rcases Nat.eq_zero_or_pos (shift num den) with h | h
    case inl => rwa [h]
    case inr => exact shiftLeft_mul_le h
  generalize shift num den = k at hs ⊢
  calc roundedQuotient num (den <<< k) <<< k * (den * binade)
    _ = roundedQuotient num (den <<< k) * den <<< k * binade := by
      rw [Nat.shiftLeft_eq, Nat.shiftLeft_eq]
      ring
    _ ≤ (num / den <<< k + 1) * den <<< k * binade :=
      Nat.mul_le_mul_right _ <| Nat.mul_le_mul_right _ (roundedQuotient_le ..)
    _ ≤ (num + den <<< k) * binade := by
      have hq := Nat.div_mul_le_self num (den <<< k)
      refine Nat.mul_le_mul_right _ ?_
      grind
    _ ≤ num * (binade + 1) := by grind

theorem unitsOfOne_le_units_nearest (hd : 0 < den) (h : unitsOfOne * den ≤ num) :
    unitsOfOne ≤ (nearest negative num den).units := by
  have hu : 4 * binade * den <<< 1021 = 2 * (unitsOfOne * den) := by
    rw [← shiftLeft_mul_comm, ← Nat.mul_assoc]
    congr 1
  refine le_units (j := 1022) ?_
  rw [magnitude_nearest, Nat.le_min]
  refine ⟨Nat.le_of_not_lt ?_, by decide⟩
  rw [rounded_lt_iff hd 1021]
  omega

theorem units_nearest_lt (hd : 0 < den) (h : num ≤ unitsOfOne * den) :
    (nearest negative num den).units < 2 * unitsOfOne := by
  have hs : den <<< 1022 ≤ unitsOfOne * den := by
    rw [← Nat.one_mul (den <<< 1022), ← shiftLeft_mul_comm]
    exact Nat.mul_le_mul_right den (by decide)
  have hu : 4 * binade * den <<< 1022 = 4 * (unitsOfOne * den) := by
    rw [← shiftLeft_mul_comm, ← Nat.mul_assoc]
    congr 1
  refine units_lt (j := 1023) ?_
  rw [magnitude_nearest]
  refine Nat.lt_of_le_of_lt (Nat.min_le_left ..) ?_
  rw [rounded_lt_iff hd 1022]
  have hp := shiftLeft_pos hd 1022
  omega

end Binary64
end SensorWatch
