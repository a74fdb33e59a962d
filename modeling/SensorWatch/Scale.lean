import SensorWatch.Number.Arithmetic
import SensorWatch.Number.IntText
import SensorWatch.RowFault
import SensorWatch.Text.Blank

namespace SensorWatch

inductive Scale where
  | yocto | zepto | atto | femto | pico | nano | micro | milli | units
  | kilo | mega | giga | tera | exa | peta | zetta | yotta
  deriving DecidableEq

namespace Scale

-- Devices number the scales from 1 in this order, which has exa in front of peta.
def all : List Scale :=
  [yocto, zepto, atto, femto, pico, nano, micro, milli, units,
   kilo, mega, giga, tera, exa, peta, zetta, yotta]

def name : Scale → String
  | yocto => "Yocto" | zepto => "Zepto" | atto => "Atto" | femto => "Femto" | pico => "Pico"
  | nano => "Nano" | micro => "Micro" | milli => "Milli" | units => "Units" | kilo => "Kilo"
  | mega => "Mega" | giga => "Giga" | tera => "Tera" | exa => "Exa" | peta => "Peta"
  | zetta => "Zetta" | yotta => "Yotta"

def exponent : Scale → Int
  | yocto => -24 | zepto => -21 | atto => -18 | femto => -15 | pico => -12
  | nano => -9 | micro => -6 | milli => -3 | units => 0 | kilo => 3
  | mega => 6 | giga => 9 | tera => 12 | exa => 18 | peta => 15
  | zetta => 21 | yotta => 24

def ofNumber? : Nat → Option Scale
  | 0 => none
  | n + 1 => all[n]?

def read (code : String) : Except RowFault Scale :=
  match ((IntRange.unsigned 8).read? (Text.strip code)).bind fun n => ofNumber? n.toNat with
  | some scale => .ok scale
  | none => .error (.unknownCode .scale code)

-- Published integers are multiplied by 10^(exponent - precision). The difference is formed in 32
-- bits, and only powers up to the greatest that a number can hold, and their reciprocals, count.
def power? (scale : Scale) (precision : Int) : Option Int :=
  ((IntRange.signed 32).checked? (scale.exponent - precision)).filter fun n => -308 ≤ n && n ≤ 308

def factor (scale : Scale) (precision : Int) : Except RowFault Binary64 :=
  match scale.power? precision with
  | some n => .ok (.powerOfTen n)
  | none => .error (.notNumeric .precision (toString precision))

def physical (scale : Scale) (precision raw : Int) : Except RowFault Binary64 :=
  (scale.factor precision).map (.ofInt raw * ·)

end Scale
end SensorWatch
