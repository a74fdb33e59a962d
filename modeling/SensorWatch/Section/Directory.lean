import SensorWatch.AdminState
import SensorWatch.ByName
import SensorWatch.Row
import SensorWatch.Section.Logged

namespace SensorWatch

structure Directory where
  names : ByName String
  interfaces : List InterfaceRow
  thresholds : List (String × Threshold)

def readRows {α : Type} (read : List String → Except RowFault α) (rows : List (List String)) :
    Logged (List α) :=
  Logged.collect read .skippedRow rows

def ThresholdRow.entry (row : ThresholdRow) : Except RowFault (String × Threshold) :=
  row.threshold.map (row.sensorId, ·)

namespace Directory

-- Of two descriptions of one sensor the later counts. A threshold without a value is left out, and
-- is logged behind the rows of the wrong width.
def parse (tables : Tables) : Logged Directory := do
  let descriptions ← readRows DescriptionRow.read tables.descriptions
  let interfaces ← readRows InterfaceRow.read tables.adminStates
  let rows ← readRows ThresholdRow.read tables.thresholds
  let thresholds ← Logged.collect ThresholdRow.entry (.skippedThreshold ·.sensorId) rows
  let names := .ofPairs (descriptions.map fun row => (row.sensorId, row.name))
  return { names, interfaces, thresholds }

def isOn (description : String) (row : InterfaceRow) : Bool :=
  row.name.toList.isPrefixOf description.toList

def longer (best : Option InterfaceRow) (row : InterfaceRow) : Option InterfaceRow :=
  match best with
  | none => some row
  | some other => if row.name.utf8ByteSize < other.name.utf8ByteSize then some other else some row

variable (dir : Directory)

-- The interfaces by their names. An empty name is none, and of two rows of one interface the later
-- counts.
def named : ByName InterfaceRow :=
  .ofPairs ((dir.interfaces.filter (!·.name.isEmpty)).map fun row => (row.name, row))

-- The interface that a described sensor sits on: the one with the longest name that the description
-- starts with, so that a sensor on Te1/10 is not taken for one on Te1/1.
def interface? (description : String) : Option InterfaceRow :=
  (dir.named.values.filter (isOn description)).foldl longer none

-- An unknown code leaves the sensor untagged, and so does a missing description.
def adminState? (sensorId : String) : Option AdminState := do
  let description ← dir.names[sensorId]?
  let row ← dir.interface? description
  AdminState.ofCode? row.code

def nameOf (sensorId : String) : String :=
  dir.names[sensorId]?.getD sensorId

def thresholdsOf (sensorId : String) : List Threshold :=
  (dir.thresholds.filter (·.1 = sensorId)).map (·.2)

end Directory
end SensorWatch
