import SensorWatch.Number.Fixed

namespace SensorWatch

inductive TemperatureUnit where
  | celsius
  | fahrenheit
  | kelvin
  deriving DecidableEq

namespace TemperatureUnit

def symbol : TemperatureUnit → String
  | celsius => "°C"
  | fahrenheit => "°F"
  | kelvin => "K"

def difference : TemperatureUnit → Binary64 → Binary64
  | celsius, d | kelvin, d => d
  | fahrenheit, d => d * .ofInt 9 / .ofInt 5

def absolute (unit : TemperatureUnit) (t : Binary64) : Binary64 :=
  match unit with
  | celsius => t
  | fahrenheit => unit.difference t + .ofInt 32
  | kelvin => t + .ofDecimal false 27315 (-2)

def render (unit : TemperatureUnit) (t : Binary64) : String :=
  (unit.absolute t).fixed 1 ++ " " ++ unit.symbol

end TemperatureUnit
end SensorWatch
