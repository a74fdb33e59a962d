import SensorWatch.Json.Basic
import SensorWatch.Number.Decimal

namespace SensorWatch.Json

-- Adds digits to a number of 64 bits as long as it stays one, and gives back those that are left.
def gather (n : Nat) : List Char → Nat × List Char
  | [] => (n, [])
  | c :: cs =>
    let next := 10 * n + (c.toNat - '0'.toNat)
    if next < UInt64.size then gather next cs else (n, c :: cs)

def ten (exp : Nat) : Binary64 :=
  .ofDecimal false 1 exp

-- Every step is rounded: near the ends of the range, and behind the 17th digit, the result is
-- not always the number nearest to the text.
def scaled? (significand : Nat) (exp : Int) : Option Binary64 :=
  let x : Binary64 := .ofInt significand
  if 0 ≤ exp then
    if x.isZero then some x
    else if 308 < exp then none
    else
      let y := x * ten exp.toNat
      if y.isFinite then some y else none
  else if -308 ≤ exp then some (x / ten (-exp).toNat)
  else if -616 ≤ exp then some (x / ten 308 / ten (-exp - 308).toNat)
  else some (.zero false)

structure NumberText where
  negative : Bool
  whole : List Char
  fraction : Option (List Char)
  exponent : Option Int

namespace NumberText

def digits (cs : List Char) : List Char × List Char :=
  (cs.takeWhile Char.isDigit, cs.dropWhile Char.isDigit)

def readFraction (cs : List Char) : Option (Option (List Char) × List Char) :=
  match cs with
  | '.' :: rest =>
    match digits rest with
    | ([], _) => none
    | (ds, rest) => some (some ds, rest)
  | _ => some (none, cs)

def readExponent (cs : List Char) : Option (Option Int × List Char) :=
  match cs with
  | c :: rest =>
    if c = 'e' ∨ c = 'E' then
      let (negative, rest) := Decimal.sign rest
      match digits rest with
      | ([], _) => none
      | (ds, rest) => some (some (if negative then -ofDigits ds else ofDigits ds), rest)
    else
      some (none, cs)
  | [] => some (none, cs)

def read? (cs : List Char) : Option (NumberText × List Char) := do
  let (negative, cs) := match cs with
    | '-' :: rest => (true, rest)
    | _ => (false, cs)
  let (whole, rest) ← match digits cs with
    | ([], _) => none
    | ('0' :: _ :: _, _) => none
    | parts => some parts
  let (fraction, rest) ← readFraction rest
  let (exponent, rest) ← readExponent rest
  return (⟨negative, whole, fraction, exponent⟩, rest)

variable (t : NumberText)

-- The value as a real number. Digits of the whole part that did not fit count as zeros.
def real : Json :=
  let (n, left) := gather 0 t.whole
  let fraction := t.fraction.getD []
  let (n, cut) := gather n fraction
  let exp := (left.length : Int) - (fraction.length - cut.length) + t.exponent.getD 0
  match scaled? n exp with
  | some x => .real (if t.negative then -x else x)
  | none => .outOfRange

-- The value. Without point and exponent it is an integer, if 64 bits hold it; but a negative zero
-- is a real number.
def value : Json :=
  let n := ofDigits t.whole
  if t.fraction.isSome || t.exponent.isSome then t.real
  else if t.negative then
    if 0 < n ∧ (IntRange.signed 64).least ≤ -n then .integer (-n) else t.real
  else if n ≤ (IntRange.unsigned 64).greatest then .integer n
  else t.real

end NumberText
end SensorWatch.Json
