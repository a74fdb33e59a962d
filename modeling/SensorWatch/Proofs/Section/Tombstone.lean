import SensorWatch.Proofs.Section.Merge

namespace SensorWatch

namespace Tables

variable {tables : Tables} {item : String} {sensor : Sensor}

theorem Holds.obsolete_iff (h : tables.Holds item sensor) :
    sensor.obsolete = true ↔ tables.buried item ≠ [] := by
  cases h
  case tombstone row hl =>
    have hb : tables.buried item ≠ [] := by
      intro hb
      simp [hb] at hl
    simp [Sensor.tombstone, hb]
  case monitor row hb _ => simp [MonitorRow.sensor_obsolete, hb]
  case entity hb _ he =>
    have ⟨id, _, h⟩ := he
    simp [obsolete_of_entity? h, hb]

theorem buried_ne_nil_iff :
    tables.buried item ≠ [] ↔
      ∃ row ∈ tables.monitorRows, tables.isSuperseded row ∧ row.name = item := by
  simp [buried, List.filter_eq_nil_iff]

theorem exists_holds_iff :
    (∃ sensor, tables.Holds item sensor) ↔
      tables.buried item ≠ [] ∨ tables.monitored item ≠ []
        ∨ (tables.bearers .celsius item).Nonempty := by
  constructor
  · intro ⟨sensor, h⟩
    cases h
    case tombstone hl => exact .inl <| List.ne_nil_of_mem (List.mem_of_getLast? hl)
    case monitor hf => exact .inr <| .inl <| List.ne_nil_of_mem (List.mem_of_head? hf)
    case entity he =>
      have ⟨id, hl, _⟩ := he
      exact .inr <| .inr ⟨id, hl.1⟩
  · intro h
    by_cases hb : tables.buried item = []
    case neg => exact ⟨_, .tombstone (List.getLast?_eq_some_getLast hb)⟩
    case pos =>
      by_cases hm : tables.monitored item = []
      case neg => exact ⟨_, .monitor hb (List.head?_eq_some_head hm)⟩
      case pos =>
        have hn : (tables.bearers .celsius item).Nonempty := by simpa [hb, hm] using h
        have ⟨sensor, hs⟩ := tables.exists_firstBearer rfl hn
        exact ⟨sensor, .entity hb hm hs⟩

theorem exists_holds_of_monitorRow {row : MonitorRow} (h : row ∈ tables.monitorRows) :
    ∃ sensor, tables.Holds row.name sensor := by
  apply exists_holds_iff.mpr
  by_cases hs : tables.isSuperseded row
  case pos => exact .inl <| buried_ne_nil_iff.mpr ⟨row, h, hs, rfl⟩
  case neg =>
    have hm : row ∈ tables.monitored row.name := by simp [monitored, monitorItem, h, hs]
    exact .inr <| .inl <| List.ne_nil_of_mem hm

theorem isSome_known?_iff {id : String} (h : tables.entity? .celsius id = some sensor) :
    (tables.known? id).isSome ↔ Text.strip sensor.rawState ∈ ["1", "2", "3"] := by
  rw [known?, h]
  simp

theorem isSuperseded_iff {row : MonitorRow} :
    tables.isSuperseded row ↔
      (tables.description? row.sensorId).isSome ∧ (tables.known? row.sensorId).isSome := by
  simp [isSuperseded]

end Tables

namespace Section

variable {tables : Tables}

-- The name of an entity sensor always stands for something. If no other id has a row of that name
-- in the environment monitor, it is obsolete exactly if the sensor is described, its state is known
-- and one of its own rows in the environment monitor has that very name.
theorem obsolete_item_iff {id sensor} (h : tables.entity? .celsius id = some sensor)
    (own : ∀ row ∈ tables.monitorRows, row.name = sensor.item → row.sensorId = id) :
    ∃ held, (ofTables tables).get? .celsius sensor.item = some held ∧
      (held.obsolete = true ↔
        (tables.description? id).isSome ∧ Text.strip sensor.rawState ∈ ["1", "2", "3"]
          ∧ ∃ row ∈ tables.monitorRows, row.sensorId = id ∧ row.name = sensor.item) := by
  have ⟨held, hh⟩ := Tables.exists_holds_iff.mpr <| .inr <| .inr ⟨id, sensor, h, rfl⟩
  refine ⟨held, (get?_celsius_eq_some_iff ..).mpr hh, ?_⟩
  rw [hh.obsolete_iff, Tables.buried_ne_nil_iff, ← Tables.isSome_known?_iff h]
  simp only [Tables.isSuperseded_iff]
  constructor
  · intro ⟨row, hm, ⟨hd, hk⟩, hn⟩
    have hi := own row hm hn
    exact ⟨hi ▸ hd, hi ▸ hk, row, hm, hi, hn⟩
  · intro ⟨hd, hk, row, hm, hi, hn⟩
    exact ⟨row, hm, ⟨hi ▸ hd, hi ▸ hk⟩, hn⟩

def switch : Tables where
  descriptions := [["1008", "Switch 1 - Sensor 0"]]
  sensorStates := [["1008", "8", "9", "0", "45", "1"]]
  envMon := [["1008", "SW#1, Sensor#1, GREEN", "36", "68", "1"]]

def switchSensor : Sensor where
  item := "Switch 1 - Sensor 0"
  quantity := .celsius
  description := "Switch 1 - Sensor 0"
  source := .entity
  rawState := "1"
  reading := some (.ofInt 45)
  device := ⟨.ok, "OK"⟩

theorem switchSensor_item_live :
    switch.entity? .celsius "1008" = some switchSensor ∧
      ∃ held, (ofTables switch).get? .celsius switchSensor.item = some held ∧
        held.obsolete = false := by
  have h : switch.entity? .celsius "1008" = some switchSensor := by decide +kernel
  have ⟨held, hg, ho⟩ := obsolete_item_iff h (by decide +kernel)
  have hn : ¬∃ row ∈ switch.monitorRows,
      row.sensorId = "1008" ∧ row.name = switchSensor.item := by decide +kernel
  exact ⟨h, held, hg, by simpa [hn] using ho⟩

def sharedName : Tables where
  descriptions := [["7", "Inlet"]]
  sensorStates := [["7", "8", "9", "0", "31", "1"]]
  envMon := [["7", "Inlet", "31", "60", "1"]]

-- A sensor can lose its name to its own tombstone, although no other sensor has that name.
theorem not_forall_entity_live :
    ¬∀ (tables : Tables) (id : String) (sensor : Sensor),
      tables.entity? .celsius id = some sensor →
      (∀ row ∈ tables.entityRows, row.sensorId ≠ id →
        tables.entityName row.sensorId ≠ sensor.item) →
      (∀ row ∈ tables.monitorRows, row.sensorId ≠ id → row.name ≠ sensor.item) →
      ∃ held, (ofTables tables).get? .celsius sensor.item = some held ∧
        held.obsolete = false := by
  intro live
  have hs : (sharedName.entity? .celsius "7").isSome := by decide +kernel
  have ⟨sensor, hs⟩ := Option.isSome_iff_exists.mp hs
  have hi : sensor.item = "Inlet" := (Tables.item_of_entity? hs).trans (by decide +kernel)
  have h := live sharedName "7" sensor hs
  rw [hi] at h
  have ⟨held, hg, ho⟩ := h (by decide +kernel) (by decide +kernel)
  have hb : ((ofTables sharedName).get? .celsius "Inlet").any (·.obsolete) := by decide +kernel
  simp [hg, ho] at hb

-- The name that the environment monitor knows a sensor by always stands for something. If no other
-- id has a row of that name and the state of the sensor in the entity table is known, it is obsolete
-- exactly if the sensor is described.
theorem obsolete_monitorName_iff {row : MonitorRow} (h : (tables.known? row.sensorId).isSome)
    (hm : row ∈ tables.monitorRows)
    (own : ∀ other ∈ tables.monitorRows, other.name = row.name → other.sensorId = row.sensorId) :
    ∃ held, (ofTables tables).get? .celsius row.name = some held ∧
      (held.obsolete = true ↔ (tables.description? row.sensorId).isSome) := by
  have ⟨held, hh⟩ := Tables.exists_holds_of_monitorRow hm
  refine ⟨held, (get?_celsius_eq_some_iff ..).mpr hh, ?_⟩
  rw [hh.obsolete_iff, Tables.buried_ne_nil_iff]
  simp only [Tables.isSuperseded_iff]
  constructor
  · intro ⟨other, ho, ⟨hd, _⟩, hn⟩
    exact own other ho hn ▸ hd
  · intro hd
    exact ⟨row, hm, ⟨hd, h⟩, rfl⟩

theorem switch_monitorName_obsolete :
    (switch.known? "1008").isSome ∧
      ∃ held, (ofTables switch).get? .celsius "SW#1 1008" = some held ∧ held.obsolete = true := by
  let row : MonitorRow := ⟨"1008", "SW#1, Sensor#1, GREEN", "36", "68", "1"⟩
  have h : (switch.known? row.sensorId).isSome := by decide +kernel
  have ⟨held, hg, ho⟩ := obsolete_monitorName_iff h (by decide +kernel) (by decide +kernel)
  have hn : row.name = "SW#1 1008" := by decide +kernel
  exact ⟨h, held, hn ▸ hg, ho.mpr (by decide +kernel)⟩

def undescribed : Tables where
  sensorStates := [["7", "8", "9", "0", "31", "1"]]
  envMon := [["7", "Inlet", "31", "60", "1"]]

-- A sensor can be live under two names, although its state in the entity table is known.
theorem not_forall_monitorName_obsolete :
    ¬∀ (tables : Tables) (row : MonitorRow) (sensor : Sensor),
      tables.known? row.sensorId = some sensor → row ∈ tables.monitorRows →
      row.name ≠ sensor.item →
      (∀ other ∈ tables.entityRows, other.sensorId ≠ row.sensorId →
        tables.entityName other.sensorId ≠ row.name) →
      (∀ other ∈ tables.monitorRows, other.sensorId ≠ row.sensorId → other.name ≠ row.name) →
      ∃ held, (ofTables tables).get? .celsius row.name = some held ∧ held.obsolete = true := by
  intro obsolete
  let row : MonitorRow := ⟨"7", "Inlet", "31", "60", "1"⟩
  have hs : (undescribed.known? row.sensorId).isSome := by decide +kernel
  have ⟨sensor, hs⟩ := Option.isSome_iff_exists.mp hs
  have hi : sensor.item = "7" := by
    rw [Tables.item_of_entity? (Option.filter_eq_some_iff.mp hs).1]
    decide +kernel
  have h := obsolete undescribed row sensor hs
  rw [hi] at h
  have ⟨held, hg, ho⟩ :=
    h (by decide +kernel) (by decide +kernel) (by decide +kernel) (by decide +kernel)
  have hl : ((ofTables undescribed).get? .celsius row.name).all (!·.obsolete) := by decide +kernel
  simp [hg, ho] at hl

end Section
end SensorWatch
