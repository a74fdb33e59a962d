import SensorWatch.Section.Entity
import SensorWatch.Section.Monitor

namespace SensorWatch

-- Is an entity sensor in a state that the device tables define? Only then does it take the place of
-- its row in the environment monitor.
def Sensor.isKnownEntity (sensor : Sensor) : Bool :=
  sensor.source = .entity && ["1", "2", "3"].contains (Text.strip sensor.rawState)

-- All that the rows of the environment monitor are merged with: the names of the sensors, and the
-- temperature sensors of the entity table by their ids. Both tables can describe one sensor under
-- different names; the name of the entity sensor is the one that stays.
structure Counterparts where
  names : ByName String
  sensors : ByName Sensor

namespace Counterparts

variable (cs : Counterparts) (row : MonitorRow) (merged : ByName Sensor)

def entity? : Option Sensor :=
  cs.sensors[row.sensorId]?.filter (·.isKnownEntity)

def newName? : Option String :=
  if (cs.entity? row).isSome then cs.names[row.sensorId]? else none

def isSuperseded : Bool :=
  (cs.newName? row).isSome

def item : String :=
  (cs.newName? row).getD row.name

-- A tombstone takes its name from whatever stood there before.
def bury : ByName Sensor :=
  if cs.isSuperseded row then merged.insert row.name (.tombstone row.name row.state) else merged

-- A live sensor only takes a name that is free, so the first row of a name stays.
def absorb : Logged (ByName Sensor) := do
  let merged := cs.bury row merged
  if merged.contains (cs.item row) then
    return merged
  let sensor ← row.build (cs.entity? row) (cs.item row)
  return merged.insert (cs.item row) sensor

def absorbAll (rows : List MonitorRow) : Logged (ByName Sensor) :=
  rows.foldlM (fun merged row => cs.absorb row merged) ∅

end Counterparts

-- Entity sensors, by their ids, take the names that are still free.
def fill (sensors merged : ByName Sensor) : ByName Sensor :=
  sensors.values.foldl (fun merged sensor => merged.insertIfNew sensor.item sensor) merged

def fillAll (entities merged : ByQuantity) : ByQuantity :=
  entities.toList.foldl
    (fun merged (quantity, sensors) =>
      merged.insert quantity (fill sensors (merged.sensors quantity)))
    merged

end SensorWatch
