import SensorWatch.Check.Verdict
import SensorWatch.Number.Fixed
import SensorWatch.Section.Basic
import SensorWatch.Text.Cut

namespace SensorWatch

inductive LevelsSetting where
  | device
  | off
  | fixed (levels : Levels)
  deriving DecidableEq

def LevelsSetting.effective (setting : LevelsSetting) (device : Option Levels) : Option Levels :=
  match setting with
  | .device => device
  | .off => none
  | .fixed levels => some levels

structure OpticalParams where
  upper : LevelsSetting := .device
  lower : LevelsSetting := .device
  deriving DecidableEq

def OpticalParams.limits (params : OpticalParams) (device : Limits) : Limits where
  upper := params.upper.effective device.upper
  lower := params.lower.effective device.lower

structure OpticalDiscovery where
  states : AdminSet := { up := true }
  deriving DecidableEq

def opticalMetric (description : String) : String :=
  if Text.holds "Transmit" description then "output_signal_power_dbm"
  else if Text.holds "Receive" description then "input_signal_power_dbm"
  else "signal_power_dbm"

def renderPower (power : Binary64) : String :=
  power.fixed 2 ++ " dBm"

namespace Sensor

variable (sensor : Sensor)

def checkPower (params : OpticalParams) : Verdict :=
  match sensor.measured with
  | .error verdict => verdict
  | .ok power =>
    let limits := params.limits sensor.limits
    { state := sensor.device.state.worst (limits.state power)
      summary := sensor.device.status ++ ", Signal power: " ++ renderPower power
        ++ limits.text renderPower power
      metrics := [.ofLevels (opticalMetric sensor.description) power limits.upper] }

-- Should the sensor be offered as a signal power to check? It has to be well, and its interface in
-- one of the states. A sensor that is on no interface is always offered.
def isOpticalItem (discovery : OpticalDiscovery) : Bool :=
  sensor.source = .entity && Text.strip sensor.rawState = "1"
    && sensor.adminState.all discovery.states.contains

end Sensor

namespace Section

variable (s : Section)

def opticalItems (discovery : OpticalDiscovery) : List String :=
  ((s.sensors .dBm).filter (·.isOpticalItem discovery)).map (·.item)

def checkPower (params : OpticalParams) (item : String) : Option Verdict :=
  (s.get? .dBm item).map (·.checkPower params)

def checkPowers (params : OpticalParams) (items : List String) : List (String × Verdict) :=
  items.filterMap fun item => (s.checkPower params item).map (item, ·)

end Section
end SensorWatch
