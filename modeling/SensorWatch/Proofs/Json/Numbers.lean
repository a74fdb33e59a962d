import SensorWatch.Json.Reader
import SensorWatch.Proofs.Number.Finite

namespace SensorWatch.Json

open Binary64

theorem ten_eq_nearest {exp : Nat} (h : exp ≤ 308) :
    ten exp = nearest false (unitsOfOne * 10 ^ exp) 1 := by
  have hl : ¬((1 : Nat) = 0 ∨ (exp : Int) + (Nat.log2 1 : Nat) < -330) := by
    rw [show Nat.log2 1 = 0 by decide]
    omega
  rw [ten, ofDecimal, if_neg hl, if_neg (by omega)]
  simp

theorem isFinite_ten {exp : Nat} (h : exp ≤ 308) : (ten exp).isFinite = true := by
  rw [ten_eq_nearest h, isFinite_nearest_iff _ Nat.one_pos]
  calc unitsOfOne * 10 ^ exp
    _ ≤ unitsOfOne * 10 ^ 308 := Nat.mul_le_mul_left _ (Nat.pow_le_pow_right (by decide) h)
    _ < overflow * 1 := by decide +kernel

theorem isFinite_div_ten {x : Binary64} {exp : Nat} (hx : x.isFinite = true) (h : exp ≤ 308) :
    (x / ten exp).isFinite = true := by
  refine isFinite_div hx (isFinite_ten h) ?_
  rw [ten_eq_nearest h]
  exact unitsOfOne_le_units_nearest _ Nat.one_pos <|
    Nat.mul_le_mul_left _ (Nat.one_le_pow _ _ (by decide))

theorem isFinite_of_scaled? {n : Nat} {exp : Int} {x : Binary64} (hn : n < UInt64.size)
    (h : scaled? n exp = some x) : x.isFinite = true := by
  have hf : (ofInt n).isFinite = true := isFinite_ofInt_of_le (by omega)
  unfold scaled? at h
  simp only at h
  split at h
  case isTrue =>
    split at h
    case isTrue =>
      cases h
      exact hf
    case isFalse =>
      simp only [Option.ite_none_left_eq_some, Option.ite_none_right_eq_some] at h
      obtain ⟨_, hy, h⟩ := h
      exact Option.some.inj h ▸ hy
  case isFalse =>
    split at h
    case isTrue =>
      cases h
      exact isFinite_div_ten hf (by omega)
    case isFalse =>
      split at h
      case isTrue =>
        cases h
        exact isFinite_div_ten (isFinite_div_ten hf le_rfl) (by omega)
      case isFalse =>
        cases h
        decide

theorem gather_lt {n : Nat} (h : n < UInt64.size) (cs : List Char) :
    (gather n cs).1 < UInt64.size := by
  induction cs generalizing n
  case nil => exact h
  case cons c cs ih =>
    rw [gather]
    split
    case isTrue hn => exact ih hn
    case isFalse => exact h

def fits (i : Int) : Bool :=
  (IntRange.signed 64).least ≤ i ∧ i ≤ (IntRange.unsigned 64).greatest

mutual

def numbersFit : Json → Bool
  | integer i => fits i
  | real x => x.isFinite
  | array items => itemsFit items
  | object members => membersFit members
  | _ => true

def itemsFit : List Json → Bool
  | [] => true
  | j :: js => j.numbersFit && itemsFit js

def membersFit : List (Json × Json) → Bool
  | [] => true
  | (_, j) :: ms => j.numbersFit && membersFit ms

end

theorem itemsFit_iff {js : List Json} : itemsFit js ↔ ∀ j ∈ js, j.numbersFit := by
  induction js
  case nil => simp [itemsFit]
  case cons ih => simp [itemsFit, ih]

theorem membersFit_iff {ms : List (Json × Json)} :
    membersFit ms ↔ ∀ j ∈ ms.map (·.2), j.numbersFit := by
  induction ms
  case nil => simp [membersFit]
  case cons ih => simp [membersFit, ih]

theorem isFinite_ofInt_of_fits {i : Int} (h : fits i) : (ofInt i).isFinite = true := by
  have hu : UInt64.size = 18446744073709551616 := rfl
  rw [fits, decide_eq_true_iff] at h
  simp only [IntRange.signed, IntRange.unsigned] at h
  exact isFinite_ofInt_of_le (by omega)

namespace NumberText

variable (t : NumberText)

theorem numbersFit_real : t.real.numbersFit := by
  have hn := gather_lt (gather_lt (show 0 < UInt64.size by decide) t.whole) (t.fraction.getD [])
  unfold real
  simp only
  split
  case h_1 x hx =>
    have hf := isFinite_of_scaled? hn hx
    rw [numbersFit]
    split
    · rwa [isFinite_neg]
    · exact hf
  case h_2 => rfl

theorem numbersFit_value : t.value.numbersFit := by
  unfold value
  simp only
  split_ifs with _ _ hn hn
  · exact t.numbersFit_real
  · refine decide_eq_true ⟨hn.2, ?_⟩
    simp only [IntRange.unsigned]
    omega
  · exact t.numbersFit_real
  · refine decide_eq_true ⟨?_, hn⟩
    simp only [IntRange.signed]
    omega
  · exact t.numbersFit_real

end NumberText

theorem numbersFit_readText (fuel : Nat) (cs : List Char) :
    (readText fuel cs).1.numbersFit := by
  unfold readText
  generalize some [] = sofar
  fun_induction readText.go fuel sofar cs
  case case3 sofar _ _ => cases sofar <;> rfl
  all_goals first | rfl | assumption

theorem numbersFit_readWord {w : String} {j : Json} (h : j.numbersFit) (cs : List Char) :
    (readWord w j cs).1.numbersFit := by
  unfold readWord
  split
  · exact h
  · rfl

theorem numbersFit_readNumber (cs : List Char) : (readNumber cs).1.numbersFit := by
  unfold readNumber
  split
  case h_1 t _ _ => exact t.numbersFit_value
  case h_2 => rfl

theorem numbersFit_read (fuel : Nat) :
    (∀ cs, (readValue fuel cs).1.numbersFit)
      ∧ (∀ isFirst cs, itemsFit (readItems fuel isFirst cs).1)
      ∧ ∀ isFirst cs, membersFit (readMembers fuel isFirst cs).1 := by
  induction fuel
  case zero => exact ⟨fun _ => rfl, fun _ _ => rfl, fun _ _ => rfl⟩
  case succ fuel ih =>
    have ⟨hv, hi, hm⟩ := ih
    refine ⟨?value, ?items, ?members⟩
    case value =>
      intro cs
      rw [readValue]
      split
      · exact numbersFit_readWord rfl _
      · exact numbersFit_readWord rfl _
      · exact numbersFit_readWord rfl _
      · exact numbersFit_readText ..
      · exact hi ..
      · exact hm ..
      · exact numbersFit_readNumber ..
    case items =>
      intro isFirst cs
      unfold readItems
      split
      · rfl
      · simp [itemsFit, hv, hi]
      · simp [itemsFit, hv, hi]
      · rfl
    case members =>
      intro isFirst cs
      unfold readMembers
      split
      · rfl
      · simp only
        split <;> simp [membersFit, numbersFit, hv, hm]
      · simp only
        split <;> simp [membersFit, numbersFit, hv, hm]
      · rfl

theorem numbersFit_root (s : String) : (Document.ofText s).root.numbersFit :=
  (numbersFit_read (2 * (s.toList.length + 1))).1 s.toList

end SensorWatch.Json
