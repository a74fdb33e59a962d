import SensorWatch.AdminState
import SensorWatch.Check.Handling
import SensorWatch.Check.TemperatureUnit
import SensorWatch.Json.Decoder
import SensorWatch.Quantity
import SensorWatch.State

namespace SensorWatch

open Json (Decoder)

def State.ofJson : Decoder State :=
  .oneOf State.all State.name

def State.toJson (state : State) : Json :=
  .text state.name

def Quantity.ofJson : Decoder Quantity :=
  .oneOf Quantity.all Quantity.name

def AdminState.ofJson : Decoder AdminState :=
  .oneOf AdminState.all AdminState.name

def AdminState.toJson (state : AdminState) : Json :=
  .text state.name

namespace Handling

def all : List Handling :=
  [usr, dev, best, worst, usrdefault, devdefault]

def name : Handling → String
  | usr => "usr"
  | dev => "dev"
  | best => "best"
  | worst => "worst"
  | usrdefault => "usrdefault"
  | devdefault => "devdefault"

def ofJson : Decoder Handling :=
  .oneOf all name

def toJson (handling : Handling) : Json :=
  .text handling.name

end Handling

namespace TemperatureUnit

def all : List TemperatureUnit :=
  [celsius, fahrenheit, kelvin]

def letter : TemperatureUnit → String
  | celsius => "c"
  | fahrenheit => "f"
  | kelvin => "k"

def ofJson : Decoder TemperatureUnit :=
  .oneOf all letter

def toJson (unit : TemperatureUnit) : Json :=
  .text unit.letter

end TemperatureUnit

-- A set is a list of its members; as it is read they may repeat.
def AdminSet.ofJson : Decoder AdminSet :=
  fun j => (Decoder.listOf AdminState.ofJson j).map .ofList

def AdminSet.toJson (set : AdminSet) : Json :=
  .array (set.toList.map (·.toJson))

end SensorWatch
