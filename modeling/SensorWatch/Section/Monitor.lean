import SensorWatch.Number.IntText
import SensorWatch.Row
import SensorWatch.Section.Logged
import SensorWatch.Sensor

namespace SensorWatch

-- The name that the environment monitor knows a sensor by. A description such as "SW#1, Sensor#1,
-- GREEN" repeats its later parts all over a stack, so the first part is kept and the sensor id
-- appended. A description without parts is the name itself.
def monitorName (description sensorId : String) : String :=
  let description := Text.strip description
  if ',' ∈ description.toList then
    let head := Text.strip (Text.before ',' description)
    if head.isEmpty then sensorId else head ++ " " ++ sensorId
  else if description.isEmpty then sensorId
  else description

namespace MonitorRow

variable (row : MonitorRow) (entity : Option Sensor)

def name : String :=
  monitorName row.description row.sensorId

def reading : Except RowFault Binary64 :=
  match (IntRange.signed 64).read? (Text.strip row.value) with
  | some n => .ok (.ofInt n)
  | none => .error (.notNumeric .temperature row.value)

-- A maximum is a level for warning and critical alike. Zero and an empty text stand for none.
def ownUpper : Except RowFault (Option Levels) :=
  let text := Text.strip row.maxThreshold
  if text.isEmpty then .ok none
  else match (IntRange.signed 64).read? text with
    | some n => .ok (if n = 0 then none else some ⟨.ofInt n, .ofInt n⟩)
    | none => .error (.notNumeric .maxThreshold text)

-- The upper levels of the entity sensor if it has any, and otherwise the row's own: then only are
-- these looked at.
def upper : Except RowFault (Option Levels) :=
  match entity.bind (·.limits.upper) with
  | some levels => .ok (some levels)
  | none => row.ownUpper

-- The reading is looked at first. A bad maximum leaves the reading, and takes all levels away.
def limits : Except RowFault Limits :=
  match row.reading with
  | .error fault => .error fault
  | .ok _ => (row.upper entity).map fun upper => ⟨upper, entity.bind (·.limits.lower)⟩

def build (item : String) : Logged Sensor :=
  let unread : Sensor := {
    item := item, quantity := .celsius,
    description := (entity.map (·.description)).getD row.description,
    source := .envMon, rawState := row.state,
    reading := row.reading.toOption, device := .ofMonitorCode row.state }
  match row.limits entity with
  | .ok limits => return { unread with limits := limits }
  | .error fault => do
    Logged.warn (.monitorSensor row.sensorId item fault)
    return { unread with device := .defect }

end MonitorRow
end SensorWatch
