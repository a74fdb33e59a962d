namespace SensorWatch

structure IntRange where
  least : Int
  greatest : Int

namespace IntRange

def unsigned (width : Nat) : IntRange :=
  ⟨0, (1 <<< width : Nat) - 1⟩

def signed (width : Nat) : IntRange :=
  ⟨-(1 <<< (width - 1) : Nat), (1 <<< (width - 1) : Nat) - 1⟩

-- The result of an operation whose overflow is noticed.
def checked? (range : IntRange) (n : Int) : Option Int :=
  if range.least ≤ n ∧ n ≤ range.greatest then some n else none

end IntRange

inductive IntFault where
  | empty
  | badDigit
  | tooLarge
  | tooSmall
  deriving DecidableEq

namespace IntFault

def message : IntFault → String
  | empty => "cannot parse integer from empty string"
  | badDigit => "invalid digit found in string"
  | tooLarge => "number too large to fit in target type"
  | tooSmall => "number too small to fit in target type"

end IntFault

def digit? (c : Char) : Option Nat :=
  if c.isDigit then some (c.toNat - '0'.toNat) else none

-- Reads digits up to a limit. The first character that is no digit, or that takes the value past
-- the limit, decides the fault.
def readDigits (limit : Nat) (past : IntFault) : List Char → Nat → Except IntFault Nat
  | [], n => .ok n
  | c :: cs, n =>
    match digit? c with
    | none => .error .badDigit
    | some d => if limit < 10 * n + d then .error past else readDigits limit past cs (10 * n + d)

-- Reads an integer of the range. A plus sign is always read, a minus sign only where the range goes
-- below zero.
def IntRange.read (range : IntRange) (s : String) : Except IntFault Int :=
  match s.toList with
  | [] => .error .empty
  | ['+'] | ['-'] => .error .badDigit
  | '+' :: cs => Int.ofNat <$> readDigits range.greatest.toNat .tooLarge cs 0
  | '-' :: cs =>
    if range.least < 0 then
      (fun n => -Int.ofNat n) <$> readDigits (-range.least).toNat .tooSmall cs 0
    else
      .error .badDigit
  | cs => Int.ofNat <$> readDigits range.greatest.toNat .tooLarge cs 0

def IntRange.read? (range : IntRange) (s : String) : Option Int :=
  (range.read s).toOption

end SensorWatch
