import SensorWatch.Number.Decimal
import SensorWatch.RowFault
import SensorWatch.Text.Cut
import SensorWatch.Threshold

namespace SensorWatch

structure Tables where
  descriptions : List (List String) := []
  sensorStates : List (List String) := []
  thresholds : List (List String) := []
  envMon : List (List String) := []
  adminStates : List (List String) := []
  deriving DecidableEq

namespace Tables

def rows (tables : Tables) : Table → List (List String)
  | .descriptions => tables.descriptions
  | .sensorStates => tables.sensorStates
  | .thresholds => tables.thresholds
  | .envMon => tables.envMon
  | .adminStates => tables.adminStates

end Tables

structure DescriptionRow where
  sensorId : String
  name : String
  deriving DecidableEq

-- Reading a row checks its width only: codes and numbers stay text, so that a bad one degrades
-- its own sensor and nothing else.
def DescriptionRow.read : List String → Except RowFault DescriptionRow
  | [sensorId, name] => .ok ⟨sensorId, name⟩
  | row => .error (.wrongWidth .descriptions row.length)

structure EntityRow where
  sensorId : String
  typeCode : String
  scale : String
  precision : String
  value : String
  state : String
  deriving DecidableEq

def EntityRow.read : List String → Except RowFault EntityRow
  | [sensorId, typeCode, scale, precision, value, state] =>
    .ok ⟨sensorId, typeCode, scale, precision, value, state⟩
  | row => .error (.wrongWidth .sensorStates row.length)

structure ThresholdRow where
  sensorId : String
  severity : String
  relation : String
  value : String
  deriving DecidableEq

-- A threshold names its sensor in front of the first point, and itself behind it.
def ThresholdRow.read : List String → Except RowFault ThresholdRow
  | [thresholdId, severity, relation, value] =>
    .ok ⟨Text.before '.' thresholdId, severity, relation, value⟩
  | row => .error (.wrongWidth .thresholds row.length)

def ThresholdRow.threshold (row : ThresholdRow) : Except RowFault Threshold :=
  match Decimal.read? (Text.strip row.value) with
  | some value => .ok ⟨Severity.ofCode? row.severity, Relation.ofCode? row.relation, value⟩
  | none => .error (.notNumeric .thresholdValue row.value)

structure MonitorRow where
  sensorId : String
  description : String
  value : String
  maxThreshold : String
  state : String
  deriving DecidableEq

def MonitorRow.read : List String → Except RowFault MonitorRow
  | [sensorId, description, value, maxThreshold, state] =>
    .ok ⟨sensorId, description, value, maxThreshold, state⟩
  | row => .error (.wrongWidth .envMon row.length)

structure InterfaceRow where
  name : String
  code : String
  deriving DecidableEq

def InterfaceRow.read : List String → Except RowFault InterfaceRow
  | [name, code] => .ok ⟨name, code⟩
  | row => .error (.wrongWidth .adminStates row.length)

end SensorWatch
