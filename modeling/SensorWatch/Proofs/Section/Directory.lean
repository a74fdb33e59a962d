import SensorWatch.Proofs.ByName
import SensorWatch.Proofs.Section.Logged

namespace SensorWatch

def Directory.ofTables (tables : Tables) : Directory :=
  (parse tables).value

namespace Tables

variable (tables : Tables)

def descriptionRows : List DescriptionRow :=
  readable DescriptionRow.read tables.descriptions

def interfaceRows : List InterfaceRow :=
  readable InterfaceRow.read tables.adminStates

def thresholdRows : List ThresholdRow :=
  readable ThresholdRow.read tables.thresholds

def description? (id : String) : Option String :=
  (tables.descriptionRows.filter (·.sensorId = id)).getLast?.map (·.name)

def entityName (id : String) : String :=
  (tables.description? id).getD id

end Tables

theorem ThresholdRow.toOption_entry (row : ThresholdRow) :
    row.entry.toOption = row.threshold.toOption.map (row.sensorId, ·) := by
  rw [entry]
  cases row.threshold <;> rfl

namespace Directory

variable (tables : Tables)

theorem ofTables_eq : ofTables tables =
    { names := .ofPairs (tables.descriptionRows.map fun row => (row.sensorId, row.name)),
      interfaces := tables.interfaceRows,
      thresholds := tables.thresholdRows.filterMap (·.entry.toOption) } := by
  simp only [ofTables, parse, Logged.value_bind, Logged.value_pure, value_readRows,
    Logged.value_collect]
  rfl

theorem names_ofTables (id : String) : (ofTables tables).names[id]? = tables.description? id := by
  simp only [ofTables_eq, ByName.getElem?_ofPairs, List.filter_map, List.getLast?_map,
    Option.map_map, Function.comp_def, Tables.description?]

theorem nameOf_ofTables (id : String) : (ofTables tables).nameOf id = tables.entityName id := by
  rw [nameOf, names_ofTables, Tables.entityName]

theorem interfaces_ofTables : (ofTables tables).interfaces = tables.interfaceRows := by
  rw [ofTables_eq]

theorem thresholdsOf_ofTables (id : String) :
    (ofTables tables).thresholdsOf id
      = (tables.thresholdRows.filter (·.sensorId = id)).filterMap (·.threshold.toOption) := by
  rw [thresholdsOf, ofTables_eq]
  induction tables.thresholdRows
  case nil => rfl
  case cons row rows ih =>
    simp only [ThresholdRow.toOption_entry] at ih ⊢
    cases ht : row.threshold.toOption <;> by_cases hi : row.sensorId = id <;> simp [ht, hi, ih]

variable {dir dir' : Directory}

theorem adminState?_congr (hn : dir.names = dir'.names)
    (hi : ∀ description, (dir.interface? description).bind (AdminState.ofCode? ·.code)
      = (dir'.interface? description).bind (AdminState.ofCode? ·.code)) :
    dir.adminState? = dir'.adminState? := by
  funext id
  simp only [adminState?, hn, Option.bind_eq_bind, hi]

end Directory
end SensorWatch
