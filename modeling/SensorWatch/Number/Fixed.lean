import SensorWatch.Number.Arithmetic

namespace SensorWatch.Binary64

def pointed (places n : Nat) : String :=
  if places = 0 then toString n
  else toString (n / Nat.pow 10 places) ++ "." ++ padded (toString (n % Nat.pow 10 places))
where
  padded (digits : String) : String :=
    String.ofList (List.replicate (places - digits.length) '0') ++ digits

def unsignedFixed (places : Nat) (x : Binary64) : String :=
  if x.isNaN then "NaN"
  else if x.isInfinite then "inf"
  else pointed places (roundedQuotient (x.units * Nat.pow 10 places) unitsOfOne)

-- A minus sign stands in front of every negative number, -0 included. A NaN shows no sign.
def fixed (places : Nat) (x : Binary64) : String :=
  (if x.isNegative && !x.isNaN then "-" else "") ++ x.unsignedFixed places

def signedFixed (places : Nat) (x : Binary64) : String :=
  (if x.isNegative || x.isNaN then "" else "+") ++ x.fixed places

end SensorWatch.Binary64
