import SensorWatch.Number.Binary64

namespace SensorWatch

def roundedQuotient (num den : Nat) : Nat :=
  let q := num / den
  let r := num % den
  if 2 * r < den then q
  else if den < 2 * r then q + 1
  else q + q % 2

namespace Binary64

-- The number nearest to num / den steps of 2^-1074. Above 2^53 steps only multiples of 2^k are
-- numbers, and the magnitude counts them: 2^52 of them for each k. What would pass the largest
-- finite number is an infinity.
def nearest (negative : Bool) (num den : Nat) : Binary64 :=
  let k := (num / den).log2 - 52
  ofMagnitude negative (min (k * binade + roundedQuotient num (den <<< k)) infinityMagnitude)

def unitsOfOne : Nat :=
  1 <<< 1074

def ofInt (i : Int) : Binary64 :=
  nearest (i < 0) (i.natAbs * unitsOfOne) 1

-- The number nearest to digits · 10^exp. The powers of ten are only built where the result is
-- neither plainly zero nor plainly infinite.
def ofDecimal (negative : Bool) (digits : Nat) (exp : Int) : Binary64 :=
  if digits = 0 ∨ exp + digits.log2 < -330 then zero negative
  else if 310 < exp then infinity negative
  else nearest negative (digits * unitsOfOne * Nat.pow 10 exp.toNat) (Nat.pow 10 (-exp).toNat)

def invalid : Binary64 :=
  nan true

def signedUnits (x : Binary64) : Int :=
  if x.isNegative then -x.units else x.units

instance : Add Binary64 where
  add x y :=
    if x.isNaN then x
    else if y.isNaN then y
    else if x.isInfinite then
      if y.isInfinite && x.isNegative != y.isNegative then invalid else x
    else if y.isInfinite then y
    else
      let sum := x.signedUnits + y.signedUnits
      if sum = 0 then zero (x.isNegative && y.isNegative) else nearest (sum < 0) sum.natAbs 1

instance : Sub Binary64 where
  sub x y := x + -y

instance : Mul Binary64 where
  mul x y :=
    let negative := x.isNegative != y.isNegative
    if x.isNaN then x
    else if y.isNaN then y
    else if x.isInfinite || y.isInfinite then
      if x.isZero || y.isZero then invalid else infinity negative
    else nearest negative (x.units * y.units) unitsOfOne

instance : Div Binary64 where
  div x y :=
    let negative := x.isNegative != y.isNegative
    if x.isNaN then x
    else if y.isNaN then y
    else if x.isInfinite then
      if y.isInfinite then invalid else infinity negative
    else if y.isInfinite then zero negative
    else if y.isZero then
      if x.isZero then invalid else infinity negative
    else nearest negative (x.units * unitsOfOne) y.units

-- 10^n by repeated squaring, every product rounded. From 10^23 on this is not always the number
-- nearest to 10^n.
def tenToThe (n : Nat) : Binary64 :=
  go (n.log2 + 1) n (ofInt 10) (ofInt 1)
where
  go : Nat → Nat → Binary64 → Binary64 → Binary64
    | 0, _, _, r => r
    | steps + 1, n, a, r => go steps (n / 2) (a * a) (if n % 2 = 1 then r * a else r)

def powerOfTen : Int → Binary64
  | .ofNat n => tenToThe n
  | .negSucc n => ofInt 1 / tenToThe (n + 1)

end Binary64
end SensorWatch
