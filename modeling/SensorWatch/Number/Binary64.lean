namespace SensorWatch

-- Numbers are equal when their bits are, so the two zeros differ and a NaN has a sign. `≤`
-- compares values and fails on a NaN, `rank` puts all bit patterns in one line.
structure Binary64 where
  bits : UInt64
  deriving DecidableEq

namespace Binary64

def signUnit : Nat :=
  0x8000000000000000

-- How many magnitudes share an exponent.
def binade : Nat :=
  0x10000000000000

-- The bits below the sign. On numbers of one sign they grow with the absolute value.
def magnitude (x : Binary64) : Nat :=
  x.bits.toNat % signUnit

def isNegative (x : Binary64) : Bool :=
  signUnit ≤ x.bits.toNat

-- The magnitude of the infinities. A NaN has a greater one, a finite number a smaller one.
def infinityMagnitude : Nat :=
  0x7FF * binade

def ofMagnitude (negative : Bool) (m : Nat) : Binary64 :=
  ⟨.ofNat (if negative then signUnit + m else m)⟩

def zero (negative : Bool) : Binary64 :=
  ofMagnitude negative 0

def infinity (negative : Bool) : Binary64 :=
  ofMagnitude negative infinityMagnitude

def nan (negative : Bool) : Binary64 :=
  ofMagnitude negative (infinityMagnitude + binade / 2)

def isNaN (x : Binary64) : Bool :=
  infinityMagnitude < x.magnitude

def isInfinite (x : Binary64) : Bool :=
  x.magnitude = infinityMagnitude

def isFinite (x : Binary64) : Bool :=
  x.magnitude < infinityMagnitude

def isZero (x : Binary64) : Bool :=
  x.magnitude = 0

-- The absolute value of a finite number, counted in steps of 2^-1074. All finite numbers are whole
-- multiples of that step.
def units (x : Binary64) : Nat :=
  let e := x.magnitude / binade
  let f := x.magnitude % binade
  if e = 0 then f else (binade + f) <<< (e - 1)

instance : Neg Binary64 where
  neg x := ofMagnitude (!x.isNegative) x.magnitude

def ordinal (x : Binary64) : Int :=
  if x.isNegative then -x.magnitude else x.magnitude

instance : LE Binary64 where
  le x y := x.isNaN = false ∧ y.isNaN = false ∧ x.ordinal ≤ y.ordinal

instance (x y : Binary64) : Decidable (x ≤ y) :=
  inferInstanceAs (Decidable (_ ∧ _ ∧ _))

-- The place of a bit pattern in the line from the negative NaNs over -∞, the negative numbers, -0,
-- 0, the positive numbers and ∞ to the positive NaNs.
def rank (x : Binary64) : Int :=
  if x.isNegative then -x.magnitude - 1 else x.magnitude

end Binary64
end SensorWatch
