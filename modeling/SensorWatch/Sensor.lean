import SensorWatch.AdminState
import SensorWatch.Levels
import SensorWatch.Quantity
import SensorWatch.Text.Blank

namespace SensorWatch

structure DeviceState where
  state : State
  text : String
  deriving DecidableEq

namespace DeviceState

def defect : DeviceState :=
  ⟨.unknown, "sensor defect"⟩

def obsolete : DeviceState :=
  ⟨.unknown, "obsolete"⟩

def unknownCode (code : String) : DeviceState :=
  ⟨.unknown, "unknown[" ++ code ++ "]"⟩

def ofEntityCode (code : String) : DeviceState :=
  match Text.strip code with
  | "1" => ⟨.ok, "OK"⟩
  | "2" => ⟨.unknown, "unavailable"⟩
  | "3" => ⟨.crit, "non-operational"⟩
  | other => unknownCode other

def ofMonitorCode (code : String) : DeviceState :=
  match Text.strip code with
  | "1" => ⟨.ok, "normal"⟩
  | "2" => ⟨.warn, "warning"⟩
  | "3" => ⟨.crit, "critical"⟩
  | "4" => ⟨.crit, "shutdown"⟩
  | "5" => ⟨.unknown, "not present"⟩
  | "6" => ⟨.crit, "not functioning"⟩
  | other => unknownCode other

end DeviceState

inductive Source where
  | entity
  | envMon
  deriving DecidableEq

namespace Source

def name : Source → String
  | entity => "entity"
  | envMon => "env_mon"

end Source

structure Sensor where
  item : String
  quantity : Quantity
  description : String
  source : Source
  rawState : String
  reading : Option Binary64 := none
  device : DeviceState
  adminState : Option AdminState := none
  limits : Limits := {}
  obsolete : Bool := false
  deriving DecidableEq

namespace Sensor

-- What stands under a name that a sensor no longer goes by: whoever still asks for the name is told
-- to look again.
def tombstone (item rawState : String) : Sensor where
  item := item
  quantity := .celsius
  description := item
  source := .envMon
  rawState := rawState
  device := .obsolete
  obsolete := true

end Sensor
end SensorWatch
