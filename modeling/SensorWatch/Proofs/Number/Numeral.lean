import Mathlib.Algebra.Order.Ring.Int
import SensorWatch.Number.IntText

theorem Except.toOption_eq_some_iff {ε α : Type} {x : Except ε α} {a : α} :
    x.toOption = some a ↔ x = .ok a := by
  cases x <;> simp [Except.toOption]

namespace SensorWatch

structure Digits (cs : List Char) (n : Nat) : Prop where
  ne_nil : cs ≠ []
  isDigit : ∀ c ∈ cs, c.isDigit
  value_eq : n = Nat.ofDigitChars 10 cs 0

inductive Natural (s : String) (n : Nat) : Prop
  | plain : Digits s.toList n → Natural s n
  | plus {cs} : s.toList = '+' :: cs → Digits cs n → Natural s n

inductive Numeral (s : String) : Int → Prop
  | natural {n : Nat} : Natural s n → Numeral s n
  | minus {cs} {n : Nat} : s.toList = '-' :: cs → Digits cs n → Numeral s (-n)

structure Unsigned (width : Nat) (s : String) (n : Nat) : Prop where
  natural : Natural s n
  lt : n < 2 ^ width

structure Signed (width : Nat) (s : String) (i : Int) : Prop where
  numeral : Numeral s i
  le : -2 ^ (width - 1) ≤ i
  lt : i < 2 ^ (width - 1)

theorem le_ofDigitChars (cs : List Char) (n : Nat) : n ≤ Nat.ofDigitChars 10 cs n := by
  induction cs generalizing n
  case nil => exact Nat.le_refl n
  case cons c cs ih =>
    rw [Nat.ofDigitChars_cons]
    exact Nat.le_trans (by omega) (ih _)

-- No number on the way is past the limit if the last one is not.
theorem readDigits_eq_ok_iff {limit n m : Nat} {past : IntFault} {cs : List Char} (hn : n ≤ limit) :
    readDigits limit past cs n = .ok m ↔
      (∀ c ∈ cs, c.isDigit) ∧ m = Nat.ofDigitChars 10 cs n ∧ m ≤ limit := by
  induction cs generalizing n
  case nil =>
    rw [readDigits, Nat.ofDigitChars_nil, Except.ok.injEq]
    simp; omega
  case cons c cs ih =>
    rw [readDigits, Nat.ofDigitChars_cons, List.forall_mem_cons, digit?]
    by_cases hc : c.isDigit
    case neg => simp [hc]
    case pos =>
      have hle := le_ofDigitChars cs (10 * n + (c.toNat - '0'.toNat))
      simp only [hc, if_true, true_and]
      by_cases hl : limit < 10 * n + (c.toNat - '0'.toNat)
      case pos =>
        rw [if_pos hl]
        constructor
        · intro h
          cases h
        · rintro ⟨_, hv, hm⟩
          omega
      case neg =>
        rw [if_neg hl]
        exact ih (Nat.le_of_not_lt hl)

theorem map_readDigits_eq_ok_iff {f : Nat → Int} {limit : Nat} {past : IntFault} {cs : List Char}
    (hc : cs ≠ []) {i : Int} :
    f <$> readDigits limit past cs 0 = .ok i ↔ ∃ n, Digits cs n ∧ n ≤ limit ∧ i = f n := by
  constructor
  case mp =>
    intro h
    cases hd : readDigits limit past cs 0
    case error => rw [hd] at h; cases h
    case ok n =>
      rw [hd] at h
      have ⟨ha, hv, hl⟩ := (readDigits_eq_ok_iff (Nat.zero_le _)).mp hd
      exact ⟨n, ⟨hc, ha, hv⟩, hl, (Except.ok.inj h).symm⟩
  case mpr =>
    intro ⟨n, hd, hl, hi⟩
    rw [(readDigits_eq_ok_iff (Nat.zero_le _)).mpr ⟨hd.isDigit, hd.value_eq, hl⟩, hi]
    rfl

namespace Digits

variable {cs : List Char} {n : Nat}

theorem head_ne (h : Digits cs n) (sign : Char) (hs : sign.isDigit = false) (cs' : List Char) :
    cs ≠ sign :: cs' := by
  rintro rfl
  simp [h.isDigit sign List.mem_cons_self] at hs

end Digits

namespace IntRange

variable {range : IntRange} {s : String} {cs : List Char} {i : Int}

theorem read_of_plus (hs : s.toList = '+' :: cs) (hc : cs ≠ []) :
    range.read s = Int.ofNat <$> readDigits range.greatest.toNat .tooLarge cs 0 := by
  rw [read, hs]
  split <;> simp_all

theorem read_of_minus (hs : s.toList = '-' :: cs) (hc : cs ≠ []) :
    range.read s
      = if range.least < 0 then
          (fun n => -Int.ofNat n) <$> readDigits (-range.least).toNat .tooSmall cs 0
        else .error .badDigit := by
  rw [read, hs]
  split <;> simp_all

theorem read_of_digits {n : Nat} (h : Digits s.toList n) :
    range.read s = Int.ofNat <$> readDigits range.greatest.toNat .tooLarge s.toList 0 := by
  have hn := h.ne_nil
  have hp := h.head_ne '+' rfl
  have hm := h.head_ne '-' rfl
  rw [read]
  split <;> simp_all

theorem read_eq_ok_iff_of_natural {n : Nat} (h : Natural s n) (hg : 0 ≤ range.greatest) :
    range.read s = .ok i ↔ n ≤ range.greatest ∧ i = n := by
  have hr {cs : List Char} (hd : Digits cs n) :
      (∃ m, Digits cs m ∧ m ≤ range.greatest.toNat ∧ i = Int.ofNat m)
        ↔ n ≤ range.greatest ∧ i = n := by
    constructor
    · intro ⟨m, hm, hl, hi⟩
      rw [hm.value_eq, ← hd.value_eq] at hl hi
      exact ⟨by omega, hi⟩
    · intro ⟨hl, hi⟩
      exact ⟨n, hd, by omega, hi⟩
  cases h
  case plain hd =>
    rw [read_of_digits hd, map_readDigits_eq_ok_iff hd.ne_nil]
    exact hr hd
  case plus cs hs hd =>
    rw [read_of_plus hs hd.ne_nil, map_readDigits_eq_ok_iff hd.ne_nil]
    exact hr hd

theorem read_eq_ok_iff_of_minus {n : Nat} (hs : s.toList = '-' :: cs) (hd : Digits cs n) :
    range.read s = .ok i ↔ range.least < 0 ∧ range.least ≤ -n ∧ i = -n := by
  rw [read_of_minus hs hd.ne_nil]
  split
  case isTrue hl =>
    rw [map_readDigits_eq_ok_iff hd.ne_nil]
    constructor
    · intro ⟨m, hm, hb, hi⟩
      rw [hm.value_eq, ← hd.value_eq] at hb hi
      exact ⟨hl, by omega, hi⟩
    · intro ⟨_, hb, hi⟩
      exact ⟨n, hd, by omega, hi⟩
  case isFalse hl => exact iff_of_false nofun (hl ·.1)

theorem numeral_of_read (h : range.read s = .ok i) : Numeral s i := by
  unfold read at h
  split at h
  case h_4 cs hc hs =>
    have ⟨n, hd, _, hi⟩ := (map_readDigits_eq_ok_iff hc).mp h
    exact hi ▸ .natural (.plus hs hd)
  case h_5 cs hc hs =>
    split at h
    case isTrue =>
      have ⟨n, hd, _, hi⟩ := (map_readDigits_eq_ok_iff hc).mp h
      exact hi ▸ .minus hs hd
    case isFalse => cases h
  case h_6 hc _ _ _ _ =>
    have ⟨n, hd, _, hi⟩ := (map_readDigits_eq_ok_iff hc).mp h
    exact hi ▸ .natural (.plain hd)
  all_goals cases h

theorem bounds_of_read (hl : range.least ≤ 0) (hg : 0 ≤ range.greatest) (h : range.read s = .ok i) :
    range.least ≤ i ∧ i ≤ range.greatest := by
  cases numeral_of_read h
  case natural n hn =>
    have ⟨hb, _⟩ := (read_eq_ok_iff_of_natural hn hg).mp h
    omega
  case minus n hs hd =>
    have ⟨_, hb, _⟩ := (read_eq_ok_iff_of_minus hs hd).mp h
    omega

theorem bounds_of_read? (hl : range.least ≤ 0) (hg : 0 ≤ range.greatest) (h : range.read? s = some i) :
    range.least ≤ i ∧ i ≤ range.greatest :=
  bounds_of_read hl hg (Except.toOption_eq_some_iff.mp h)

theorem read?_eq_some_iff_of_unsigned (hl : range.least = 0) (hg : 0 ≤ range.greatest) :
    range.read? s = some i ↔ ∃ n : Nat, Natural s n ∧ n ≤ range.greatest ∧ i = n := by
  rw [read?, Except.toOption_eq_some_iff]
  constructor
  case mp =>
    intro h
    cases numeral_of_read h
    case natural n hn => exact ⟨n, hn, (read_eq_ok_iff_of_natural hn hg).mp h⟩
    case minus hs hd =>
      have ⟨hb, _⟩ := (read_eq_ok_iff_of_minus hs hd).mp h
      omega
  case mpr =>
    intro ⟨n, hn, h⟩
    exact (read_eq_ok_iff_of_natural hn hg).mpr h

theorem read?_eq_some_iff_of_signed (hl : range.least < 0) (hg : 0 ≤ range.greatest) :
    range.read? s = some i ↔ Numeral s i ∧ range.least ≤ i ∧ i ≤ range.greatest := by
  rw [read?, Except.toOption_eq_some_iff]
  constructor
  case mp =>
    intro h
    exact ⟨numeral_of_read h, bounds_of_read (Int.le_of_lt hl) hg h⟩
  case mpr =>
    intro ⟨hn, hb⟩
    cases hn
    case natural n hn => exact (read_eq_ok_iff_of_natural hn hg).mpr ⟨hb.2, rfl⟩
    case minus n hs hd => exact (read_eq_ok_iff_of_minus hs hd).mpr ⟨hl, hb.1, rfl⟩

variable {width : Nat}

theorem read?_unsigned_eq_some_iff :
    (unsigned width).read? s = some i ↔ ∃ n : Nat, Unsigned width s n ∧ i = n := by
  have hp : 0 < 2 ^ width := Nat.two_pow_pos width
  have hg : (unsigned width).greatest = (2 ^ width : Nat) - 1 := by
    rw [unsigned, Nat.one_shiftLeft]
  rw [read?_eq_some_iff_of_unsigned rfl (by omega), hg]
  constructor
  · intro ⟨n, hn, hl, hi⟩
    exact ⟨n, ⟨hn, by omega⟩, hi⟩
  · intro ⟨n, hn, hi⟩
    have hl := hn.lt
    exact ⟨n, hn.natural, by omega, hi⟩

theorem read?_signed_eq_some_iff : (signed width).read? s = some i ↔ Signed width s i := by
  have hp : 0 < 2 ^ (width - 1) := Nat.two_pow_pos (width - 1)
  have hl : (signed width).least = -(2 ^ (width - 1) : Nat) := by rw [signed, Nat.one_shiftLeft]
  have hg : (signed width).greatest = (2 ^ (width - 1) : Nat) - 1 := by
    rw [signed, Nat.one_shiftLeft]
  rw [read?_eq_some_iff_of_signed (by omega) (by omega), hl, hg]
  push_cast
  constructor
  · intro ⟨hn, hl, hg⟩
    exact ⟨hn, hl, by omega⟩
  · intro ⟨hn, hl, hg⟩
    exact ⟨hn, hl, by omega⟩

theorem read?_signed_eq_none_iff :
    (signed width).read? s = none ↔ ∀ i, ¬Signed width s i := by
  simp only [Option.eq_none_iff_forall_ne_some, ne_eq, read?_signed_eq_some_iff]

end IntRange

instance (width : Nat) (s : String) (i : Int) : Decidable (Signed width s i) :=
  decidable_of_iff _ IntRange.read?_signed_eq_some_iff

theorem Signed.ne_empty {width : Nat} {s : String} {i : Int} (h : Signed width s i) : s ≠ "" := by
  rintro rfl
  cases IntRange.read?_signed_eq_some_iff.mpr h

end SensorWatch
