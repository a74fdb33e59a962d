import SensorWatch.Text.Blank

namespace SensorWatch

inductive Quantity where
  | other | unknown | voltsAC | voltsDC | amperes | watts | hertz
  | celsius | percentRH | rpm | cmm | truthvalue | specialEnum | dBm
  deriving DecidableEq

namespace Quantity

-- In the order of the codes, which count from 1.
def all : List Quantity :=
  [other, unknown, voltsAC, voltsDC, amperes, watts, hertz,
   celsius, percentRH, rpm, cmm, truthvalue, specialEnum, dBm]

def name : Quantity → String
  | other => "other" | unknown => "unknown" | voltsAC => "voltsAC" | voltsDC => "voltsDC"
  | amperes => "amperes" | watts => "watts" | hertz => "hertz" | celsius => "celsius"
  | percentRH => "percentRH" | rpm => "rpm" | cmm => "cmm" | truthvalue => "truthvalue"
  | specialEnum => "specialEnum" | dBm => "dBm"

instance : Ord Quantity where
  compare := compareOn Quantity.ctorIdx

instance : Std.TransOrd Quantity :=
  inferInstanceAs (Std.TransCmp (compareOn Quantity.ctorIdx))

theorem getElem?_all_ctorIdx (q : Quantity) : all[q.ctorIdx]? = some q := by
  cases q <;> rfl

instance : Std.LawfulEqOrd Quantity where
  eq_of_compare {p q} h := by
    have hi : p.ctorIdx = q.ctorIdx := Nat.compare_eq_eq.mp h
    have hp := p.getElem?_all_ctorIdx
    rw [hi, getElem?_all_ctorIdx] at hp
    exact (Option.some.inj hp).symm

-- A code is one fixed text: neither a sign nor a leading zero is read.
def ofCode? (code : String) : Option Quantity :=
  match Text.strip code with
  | "1" => some other
  | "2" => some unknown
  | "3" => some voltsAC
  | "4" => some voltsDC
  | "5" => some amperes
  | "6" => some watts
  | "7" => some hertz
  | "8" => some celsius
  | "9" => some percentRH
  | "10" => some rpm
  | "11" => some cmm
  | "12" => some truthvalue
  | "13" => some specialEnum
  | "14" => some dBm
  | _ => none

def isChecked : Quantity → Bool
  | celsius | dBm => true
  | _ => false

theorem isChecked_iff {q : Quantity} : q.isChecked ↔ q = celsius ∨ q = dBm := by
  cases q <;> simp [isChecked]

end Quantity
end SensorWatch
