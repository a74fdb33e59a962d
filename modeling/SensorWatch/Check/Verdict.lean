import SensorWatch.Sensor

namespace SensorWatch

structure Metric where
  name : String
  value : Binary64
  warn : Option Binary64 := none
  crit : Option Binary64 := none
  min : Option Binary64 := none
  max : Option Binary64 := none
  deriving DecidableEq

namespace Metric

def ofLevels (name : String) (value : Binary64) (levels : Option Levels) : Metric where
  name := name
  value := value
  warn := levels.map (·.warn)
  crit := levels.map (·.crit)

end Metric

structure Verdict where
  state : State
  summary : String
  metrics : List Metric := []
  deriving DecidableEq

namespace Verdict

def obsolete : Verdict :=
  { state := .unknown, summary := "This sensor is obsolete, please rediscover" }

end Verdict

def DeviceState.status (device : DeviceState) : String :=
  "Status: " ++ device.text

def Sensor.measured (sensor : Sensor) : Except Verdict Binary64 :=
  if sensor.obsolete then .error .obsolete
  else match sensor.reading with
    | some reading => .ok reading
    | none => .error { state := sensor.device.state, summary := sensor.device.status }

end SensorWatch
