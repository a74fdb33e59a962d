import SensorWatch.Section.Directory
import SensorWatch.Scale
import SensorWatch.Sensor

namespace SensorWatch

structure Measurement where
  reading : Binary64
  limits : Limits
  deriving DecidableEq

def EntityRow.number (range : IntRange) (field : Field) (text : String) : Except RowFault Int :=
  match range.read? (Text.strip text) with
  | some n => .ok n
  | none => .error (.notNumeric field text)

-- The fields are read from left to right, and the factor is formed last: the first fault counts.
-- Thresholds are scaled by the factor, the reading is scaled on its own.
def EntityRow.measure (row : EntityRow) (quantity : Quantity) (thresholds : List Threshold) :
    Except RowFault Measurement := do
  let scale ← Scale.read row.scale
  let precision ← number (.signed 32) .precision row.precision
  let raw ← number (.signed 64) .value row.value
  let factor ← scale.factor precision
  let reading ← scale.physical precision raw
  return { reading, limits := Threshold.limits quantity factor thresholds }

structure Registration where
  row : EntityRow
  quantity : Quantity
  name : String
  deriving DecidableEq

namespace Registration

-- A sensor without a name can not be registered.
def ofRow? (dir : Directory) (row : EntityRow) : Option Registration :=
  (Quantity.ofCode? row.typeCode).bind fun quantity =>
    if quantity.isChecked && !(dir.nameOf row.sensorId).isEmpty then
      some ⟨row, quantity, dir.nameOf row.sensorId⟩
    else
      none

variable (dir : Directory) (r : Registration)

def device : DeviceState :=
  .ofEntityCode r.row.state

def measurement? : Option (Except RowFault Measurement) :=
  if r.device.state = .ok then
    some (r.row.measure r.quantity (dir.thresholdsOf r.row.sensorId))
  else
    none

-- The registered sensor. If its numbers can not be read then it is kept without them, and logged.
def build : Logged Sensor :=
  let unread : Sensor := {
    item := r.name, quantity := r.quantity, description := r.name,
    source := .entity, rawState := r.row.state, device := r.device,
    adminState := dir.adminState? r.row.sensorId }
  match r.measurement? dir with
  | some (.ok m) => return { unread with reading := some m.reading, limits := m.limits }
  | some (.error fault) => do
    Logged.warn (.entitySensor r.row.sensorId r.name fault)
    return { unread with device := .defect }
  | none => return unread

end Registration

abbrev ByQuantity : Type :=
  Std.ExtTreeMap Quantity (ByName Sensor)

def ByQuantity.sensors (parts : ByQuantity) (quantity : Quantity) : ByName Sensor :=
  parts[quantity]?.getD ∅

-- Entity sensors by their ids. The first row of a sensor id and quantity registers a sensor; later
-- ones are passed over.
def register (dir : Directory) (entities : ByQuantity) (row : EntityRow) : Logged ByQuantity := do
  let some r := Registration.ofRow? dir row | return entities
  let sensors := entities.sensors r.quantity
  if sensors.contains row.sensorId then
    return entities
  let sensor ← r.build dir
  return entities.insert r.quantity (sensors.insert row.sensorId sensor)

def registerAll (dir : Directory) (rows : List EntityRow) : Logged ByQuantity :=
  rows.foldlM (register dir) ∅

end SensorWatch
