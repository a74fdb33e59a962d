import SensorWatch.Section.Merge

namespace SensorWatch

structure Section where
  partitions : ByQuantity := ∅
  deriving DecidableEq

namespace Section

variable (s : Section) (quantity : Quantity)

def get? (item : String) : Option Sensor :=
  (s.partitions.sensors quantity)[item]?

def sensors : List Sensor :=
  (s.partitions.sensors quantity).values

def size : Nat :=
  s.partitions.foldl (fun n _ sensors => n + sensors.size) 0

def isEmpty : Bool :=
  s.size = 0

-- No table is too bad to be read.
def parse (tables : Tables) : Logged Section := do
  let dir ← Directory.parse tables
  let rows ← readRows EntityRow.read tables.sensorStates
  let entities ← registerAll dir rows
  let rows ← readRows MonitorRow.read tables.envMon
  let celsius ← Counterparts.absorbAll ⟨dir.names, entities.sensors .celsius⟩ rows
  return { partitions := fillAll entities ((∅ : ByQuantity).insert .celsius celsius) }

def ofTables (tables : Tables) : Section :=
  (parse tables).value

end Section

def Tables.warnings (tables : Tables) : List Warning :=
  (Section.parse tables).log

end SensorWatch
