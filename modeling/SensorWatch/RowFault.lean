import SensorWatch.Text.Quoted

namespace SensorWatch

inductive Table where
  | descriptions
  | sensorStates
  | thresholds
  | envMon
  | adminStates
  deriving DecidableEq

namespace Table

def name : Table → String
  | descriptions => "descriptions"
  | sensorStates => "sensor_states"
  | thresholds => "thresholds"
  | envMon => "env_mon"
  | adminStates => "admin_states"

def width : Table → Nat
  | descriptions => 2
  | sensorStates => 6
  | thresholds => 4
  | envMon => 5
  | adminStates => 2

end Table

inductive Field where
  | scale
  | severity
  | relation
  | precision
  | value
  | thresholdValue
  | temperature
  | maxThreshold
  deriving DecidableEq

namespace Field

def label : Field → String
  | scale => "scale"
  | severity => "severity"
  | relation => "relation"
  | precision => "precision"
  | value => "value"
  | thresholdValue => "threshold value"
  | temperature => "temperature"
  | maxThreshold => "max threshold"

end Field

inductive RowFault where
  | wrongWidth (table : Table) (width : Nat)
  | unknownCode (field : Field) (code : String)
  | notNumeric (field : Field) (text : String)
  deriving DecidableEq

namespace RowFault

def message : RowFault → String
  | wrongWidth table width =>
    table.name ++ " row has " ++ toString width ++ " fields, expected " ++ toString table.width
  | unknownCode field code => "unknown " ++ field.label ++ " code " ++ Text.quoted code
  | notNumeric field text => field.label ++ " is not numeric: " ++ Text.quoted text

end RowFault
end SensorWatch
