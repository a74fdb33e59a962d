import SensorWatch.Proofs.Number.Rounding

namespace SensorWatch

namespace Binary64

-- The number of steps of 2^-1074 that is half a step beyond the largest finite number.
def overflow : Nat :=
  (4 * binade - 1) <<< 2044

def Overflows (x y : Binary64) : Prop :=
  overflow * unitsOfOne ≤ x.units * y.units

variable {x y : Binary64} {num den : Nat}

theorem isFinite_nearest_iff (negative : Bool) (hd : 0 < den) :
    (nearest negative num den).isFinite = true ↔ num < overflow * den := by
  have hs : den <<< 2045 = 2 * den <<< 2044 := Nat.shiftLeft_succ den 2044
  have ho : overflow * den = (4 * binade - 1) * den <<< 2044 := shiftLeft_mul_comm _ den 2044
  have ho' : overflow * den + den <<< 2044 = 4 * binade * den <<< 2044 := by
    rw [ho, ← Nat.succ_mul]
    rfl
  have hi : infinityMagnitude = (2045 + 2) * binade := by decide
  calc (nearest negative num den).isFinite = true
    _ ↔ 2 * num + den <<< 2045 < 4 * binade * den <<< 2045 := by
      rw [← rounded_lt_iff hd, isFinite, magnitude_nearest, decide_eq_true_iff, min_lt_iff, hi]
      simp
    _ ↔ num < overflow * den := by
      rw [hs, Nat.mul_left_comm, ← ho']
      omega

theorem rounded_le_of_isFinite {negative : Bool} (h : (nearest negative num den).isFinite = true) :
    rounded num den ≤ infinityMagnitude := by
  rw [isFinite, magnitude_nearest, decide_eq_true_iff] at h
  omega

theorem isNaN_nearest (negative : Bool) (num den : Nat) :
    (nearest negative num den).isNaN = false := by
  rw [isNaN, magnitude_nearest]
  simp

theorem isFinite_infinity (negative : Bool) : (infinity negative).isFinite = false := by
  cases negative <;> decide

theorem isFinite_eq_not (x : Binary64) : x.isFinite = (!x.isNaN && !x.isInfinite) := by
  simp only [isFinite, isNaN, isInfinite, ← decide_not, ← Bool.decide_and, decide_eq_decide]
  omega

theorem mul_eq_nearest (hx : x.isFinite = true) (hy : y.isFinite = true) :
    x * y = nearest (x.isNegative != y.isNegative) (x.units * y.units) unitsOfOne := by
  simp only [isFinite_eq_not, Bool.and_eq_true, Bool.not_eq_true'] at hx hy
  change ite _ _ _ = _
  simp [hx, hy]

theorem isFinite_mul_eq_false (h : x.isFinite = false ∨ y.isFinite = false) :
    (x * y).isFinite = false := by
  change Binary64.isFinite (ite _ _ _) = false
  split
  case isTrue hx => simp [isFinite_eq_not, hx]
  split
  case isTrue hy => simp [isFinite_eq_not, hy]
  case isFalse hx hy =>
    have hi : (x.isInfinite || y.isInfinite) = true := by
      simpa [isFinite_eq_not, hx, hy] using h
    rw [if_pos hi]
    split
    · rfl
    · exact isFinite_infinity _

theorem isFinite_mul_iff :
    (x * y).isFinite = true ↔ x.isFinite = true ∧ y.isFinite = true ∧ ¬x.Overflows y := by
  by_cases h : x.isFinite = true ∧ y.isFinite = true
  case pos =>
    rw [mul_eq_nearest h.1 h.2, isFinite_nearest_iff _ (by decide), Overflows, Nat.not_le]
    tauto
  case neg =>
    have hf : (x * y).isFinite = false := isFinite_mul_eq_false (by grind)
    grind

theorem isFinite_ofInt_of_le {i : Int} (h : i.natAbs ≤ UInt64.size) :
    (ofInt i).isFinite = true := by
  rw [ofInt, isFinite_nearest_iff _ Nat.one_pos]
  calc i.natAbs * unitsOfOne
    _ ≤ UInt64.size * unitsOfOne := Nat.mul_le_mul_right _ h
    _ < overflow * 1 := by decide +kernel

theorem isFinite_ofInt {i : Int} (h : i.natAbs ≤ signUnit) : (ofInt i).isFinite = true :=
  isFinite_ofInt_of_le (Nat.le_trans h (by decide))

theorem isFinite_neg (x : Binary64) : (-x).isFinite = x.isFinite := by
  have hm : (-x).magnitude = x.magnitude :=
    magnitude_ofMagnitude _ (Nat.mod_lt _ (by decide))
  rw [isFinite, isFinite, hm]

theorem units_lt_overflow (h : x.isFinite = true) : x.units < overflow := by
  obtain ⟨k, f, hx, hl, hf, hu⟩ := exists_units x
  have hi : infinityMagnitude = (2045 + 2) * binade := by decide
  rw [isFinite, decide_eq_true_iff, hi] at h
  have hk : k ≤ 2045 := by
    by_contra hk
    have hj := Nat.mul_le_mul_right binade (Nat.lt_of_not_le hk)
    have := hl (by omega)
    rw [hx] at h
    generalize binade = b at *
    grind
  rw [hu]
  calc f <<< k
    _ ≤ (2 * binade - 1) <<< 2045 := shiftLeft_le_shiftLeft (Nat.le_sub_one_of_lt hf) hk
    _ < overflow := by decide

-- Are u steps no more than v · 10^n, each of t roundings having added up to one part in 2^52?
def AtMost (v n t u : Nat) : Prop :=
  u * binade ^ t ≤ v * 10 ^ n * (binade + 1) ^ t

instance (v n t u : Nat) : Decidable (AtMost v n t u) :=
  inferInstanceAs (Decidable (_ ≤ _))

namespace AtMost

variable {v v' n n' t t' u u' : Nat}

theorem mul (h : AtMost v n t u) (h' : AtMost v' n' t' u') :
    AtMost (v * v') (n + n') (t + t') (u * u') := by
  calc u * u' * binade ^ (t + t')
    _ = u * binade ^ t * (u' * binade ^ t') := by ring
    _ ≤ v * 10 ^ n * (binade + 1) ^ t * (v' * 10 ^ n' * (binade + 1) ^ t') := Nat.mul_le_mul h h'
    _ = v * v' * 10 ^ (n + n') * (binade + 1) ^ (t + t') := by ring

theorem mono (h : AtMost v n t u) (hn : n ≤ n') (ht : t ≤ t') : AtMost v n' t' u := by
  obtain ⟨d, rfl⟩ := Nat.exists_eq_add_of_le ht
  calc u * binade ^ (t + d)
    _ = u * binade ^ t * binade ^ d := by ring
    _ ≤ v * 10 ^ n * (binade + 1) ^ t * (binade + 1) ^ d :=
      Nat.mul_le_mul h (Nat.pow_le_pow_left (Nat.le_succ _) d)
    _ ≤ v * 10 ^ n' * (binade + 1) ^ t * (binade + 1) ^ d := by
      gcongr
      decide
    _ = v * 10 ^ n' * (binade + 1) ^ (t + d) := by ring

theorem lt (h : AtMost v n t u) {w : Nat}
    (hw : v * 10 ^ n * (binade + 1) ^ t < w * binade ^ t) : u < w :=
  Nat.lt_of_mul_lt_mul_right (Nat.lt_of_le_of_lt h hw)

end AtMost

theorem atMost_nearest (negative : Bool) {v n t : Nat} (hd : 0 < den) (hn : den * binade ≤ num)
    (hf : (nearest negative num den).isFinite = true) (h : AtMost (v * den) n t num) :
    AtMost v n (t + 1) (nearest negative num den).units := by
  have hu := units_nearest_mul_le negative hd (rounded_le_of_isFinite hf) hn
  generalize (nearest negative num den).units = u at hu
  refine Nat.le_of_mul_le_mul_right ?_ hd
  calc u * binade ^ (t + 1) * den
    _ = u * (den * binade) * binade ^ t := by ring
    _ ≤ num * (binade + 1) * binade ^ t := Nat.mul_le_mul_right _ hu
    _ = num * binade ^ t * (binade + 1) := by ring
    _ ≤ v * den * 10 ^ n * (binade + 1) ^ t * (binade + 1) := Nat.mul_le_mul_right _ h
    _ = v * 10 ^ n * (binade + 1) ^ (t + 1) * den := by ring

structure Power (n t : Nat) (x : Binary64) : Prop where
  isFinite : x.isFinite = true
  one_le : unitsOfOne ≤ x.units
  atMost : AtMost unitsOfOne n t x.units

theorem Power.mul {n n' t t' : Nat} (hx : Power n t x) (hy : Power n' t' y) (hn : n + n' ≤ 308)
    (ht : t + t' ≤ 616) : Power (n + n') (t + t' + 1) (x * y) := by
  have hm := hx.atMost.mul hy.atMost
  have hl : unitsOfOne * unitsOfOne ≤ x.units * y.units := Nat.mul_le_mul hx.one_le hy.one_le
  have hf : (x * y).isFinite = true := by
    refine isFinite_mul_iff.mpr ⟨hx.isFinite, hy.isFinite, Nat.not_le.mpr ((hm.mono hn ht).lt ?_)⟩
    decide +kernel
  rw [mul_eq_nearest hx.isFinite hy.isFinite] at hf ⊢
  refine ⟨hf, ?_, ?_⟩
  · exact unitsOfOne_le_units_nearest _ (by decide) hl
  · exact atMost_nearest _ (by decide) (Nat.le_trans (Nat.mul_le_mul_left _ (by decide)) hl) hf hm

-- The invariant of repeated squaring: what is still to be multiplied and what has been belong to the
-- bits of the exponent, and every power of ten has been rounded twice at most.
theorem power_go {n i j steps : Nat} {a r : Binary64} (hs : n < 2 ^ steps) (hj : 0 < j)
    (ha : 0 < n → Power j (2 * j - 1) a) (hr : Power i (2 * i) r) (hn : i + n * j ≤ 308) :
    Power (i + n * j) (2 * (i + n * j)) (tenToThe.go steps n a r) := by
  induction steps generalizing n i j a r
  case zero =>
    obtain rfl : n = 0 := by omega
    rwa [Nat.zero_mul]
  case succ steps ih =>
    have hsq (h : 1 < n) : Power (2 * j) (2 * (2 * j) - 1) (a * a) := by
      have hp := ha (by omega)
      have h2 := Nat.mul_le_mul_right j (show 2 ≤ n from h)
      convert hp.mul hp (by omega) (by omega) using 1 <;> omega
    rw [Nat.pow_succ] at hs
    rw [tenToThe.go]
    obtain ⟨m, rfl | rfl⟩ := Nat.even_or_odd' n
    case inl =>
      have he : i + m * (2 * j) = i + 2 * m * j := by ring
      have h := ih (show m < 2 ^ steps by omega) (show 0 < 2 * j by omega)
        (fun _ => hsq (by omega)) hr (by omega)
      rwa [if_neg (by omega), Nat.mul_div_cancel_left m Nat.two_pos, ← he]
    case inr =>
      have he : i + j + m * (2 * j) = i + (2 * m + 1) * j := by ring
      have hr' : Power (i + j) (2 * (i + j)) (r * a) := by
        have hl := Nat.zero_le (m * (2 * j))
        convert hr.mul (ha (by omega)) (by omega) (by omega) using 1
        omega
      have h := ih (show m < 2 ^ steps by omega) (show 0 < 2 * j by omega)
        (fun _ => hsq (by omega)) hr' (by omega)
      rwa [if_pos (by omega), show (2 * m + 1) / 2 = m by omega, ← he]

theorem power_tenToThe {n : Nat} (hn : n ≤ 308) : Power n (2 * n) (tenToThe n) := by
  have ha : Power 1 (2 * 1 - 1) (ofInt 10) := by
    constructor <;> decide +kernel
  have hr : Power 0 (2 * 0) (ofInt 1) := by
    constructor <;> decide +kernel
  have h := power_go Nat.lt_log2_self Nat.one_pos (fun _ => ha) hr (by omega : 0 + n * 1 ≤ 308)
  rwa [Nat.zero_add, Nat.mul_one] at h

theorem div_eq_nearest (hx : x.isFinite = true) (hy : y.isFinite = true) (h : 0 < y.units) :
    x / y = nearest (x.isNegative != y.isNegative) (x.units * unitsOfOne) y.units := by
  have hz : y.isZero = false := by
    by_contra hz
    have hm : y.magnitude = 0 := by simpa [isZero] using hz
    simp [units, hm] at h
  simp only [isFinite_eq_not, Bool.and_eq_true, Bool.not_eq_true'] at hx hy
  change ite _ _ _ = _
  simp [hx, hy, hz]

theorem isFinite_div (hx : x.isFinite = true) (hy : y.isFinite = true)
    (h : unitsOfOne ≤ y.units) : (x / y).isFinite = true := by
  have hp : 0 < y.units := Nat.lt_of_lt_of_le (by decide) h
  rw [div_eq_nearest hx hy hp, isFinite_nearest_iff _ hp]
  calc x.units * unitsOfOne
    _ < overflow * unitsOfOne := Nat.mul_lt_mul_of_pos_right (units_lt_overflow hx) (by decide)
    _ ≤ overflow * y.units := Nat.mul_le_mul_left _ h

theorem Power.reciprocal {n t : Nat} (h : Power n t x) :
    (ofInt 1 / x).isFinite = true ∧ (ofInt 1 / x).units < 2 * unitsOfOne := by
  have hf : (ofInt 1).isFinite = true := isFinite_ofInt (by decide)
  have hu : (ofInt 1).units = unitsOfOne := by decide +kernel
  have hp : 0 < x.units := Nat.lt_of_lt_of_le (by decide) h.one_le
  rw [div_eq_nearest hf h.isFinite hp, hu]
  constructor
  · rw [isFinite_nearest_iff _ hp]
    calc unitsOfOne * unitsOfOne
      _ < overflow * unitsOfOne := by decide +kernel
      _ ≤ overflow * x.units := Nat.mul_le_mul_left _ h.one_le
  · exact units_nearest_lt _ hp (Nat.mul_le_mul_left _ h.one_le)

theorem isFinite_powerOfTen {e : Int} (hl : -308 ≤ e) (hu : e ≤ 308) :
    (powerOfTen e).isFinite = true := by
  cases e
  case ofNat n => exact (power_tenToThe (Int.ofNat_le.mp hu)).isFinite
  case negSucc n => exact (power_tenToThe (show n + 1 ≤ 308 by omega)).reciprocal.1

theorem atMost_ofInt {i : Int} (h : i.natAbs ≤ signUnit) :
    AtMost (signUnit * unitsOfOne) 0 1 (ofInt i).units := by
  by_cases h0 : i = 0
  case pos =>
    rw [h0]
    decide +kernel
  case neg =>
    have hn : 1 * binade ≤ i.natAbs * unitsOfOne :=
      Nat.mul_le_mul (Int.natAbs_pos.mpr h0) (by decide)
    refine atMost_nearest _ Nat.one_pos hn (isFinite_ofInt h) ?_
    have hu := Nat.mul_le_mul_right unitsOfOne h
    simpa [AtMost] using hu

-- Ten to the 289 takes no integer of 64 bits beyond the largest finite number.
theorem isFinite_ofInt_mul_powerOfTen {i e : Int} (hi : i.natAbs ≤ signUnit) (hl : -308 ≤ e)
    (hu : e ≤ 289) : (ofInt i * powerOfTen e).isFinite = true := by
  have he : AtMost unitsOfOne 289 578 (powerOfTen e).units := by
    cases e
    case ofNat n =>
      have hn : n ≤ 289 := Int.ofNat_le.mp hu
      exact (power_tenToThe (by omega)).atMost.mono hn (by omega)
    case negSucc n =>
      have hr := (power_tenToThe (show n + 1 ≤ 308 by omega)).reciprocal.2
      have h1 : AtMost unitsOfOne 1 0 (powerOfTen (.negSucc n)).units := by
        simp only [AtMost, powerOfTen, Nat.pow_zero, Nat.pow_one, Nat.mul_one]
        omega
      exact h1.mono (by omega) (by omega)
  have hm := (atMost_ofInt hi).mul he
  refine isFinite_mul_iff.mpr
    ⟨isFinite_ofInt hi, isFinite_powerOfTen hl (by omega), Nat.not_le.mpr (hm.lt ?_)⟩
  decide +kernel

-- The next power of ten does.
example : (ofInt 0x7FFFFFFFFFFFFFFF * powerOfTen 290).isFinite = false := by
  decide +kernel

end Binary64

end SensorWatch
