import SensorWatch.Proofs.Section.Directory
import SensorWatch.Section.Basic

namespace SensorWatch

namespace ByQuantity

variable (parts : ByQuantity) (table : ByName Sensor) (quantity q : Quantity)

@[simp]
theorem sensors_empty : ByQuantity.sensors ∅ quantity = ∅ := by
  simp [sensors]

theorem sensors_insert :
    ByQuantity.sensors (parts.insert quantity table) q
      = if quantity = q then table else parts.sensors q := by
  rw [sensors, Std.ExtTreeMap.getElem?_insert]
  by_cases h : quantity = q <;> simp [h, sensors]

theorem pairwise_toList : parts.toList.Pairwise fun a b => a.1 ≠ b.1 := by
  simpa using parts.distinct_keys_toList

end ByQuantity

namespace Registration

variable (dir : Directory) (r : Registration)

def sensor : Sensor :=
  (r.build dir).value

def fault? : Option RowFault :=
  (r.measurement? dir).bind RowFault.of?

theorem log_build :
    (r.build dir).log
      = ((r.fault? dir).map (.entitySensor r.row.sensorId r.name)).toList := by
  simp only [build, fault?]
  rcases r.measurement? dir with _ | (_ | _) <;> rfl

end Registration

namespace Tables

variable (tables : Tables)

def entityRows : List EntityRow :=
  readable EntityRow.read tables.sensorStates

def monitorRows : List MonitorRow :=
  readable MonitorRow.read tables.envMon

-- The first row of the sensor whose type code stands for the quantity.
def entityRow? (quantity : Quantity) (id : String) : Option EntityRow :=
  tables.entityRows.find? fun row =>
    row.sensorId = id && Quantity.ofCode? row.typeCode = some quantity

def registration? (quantity : Quantity) (id : String) : Option Registration :=
  if tables.entityName id = "" then none
  else (tables.entityRow? quantity id).map (⟨·, quantity, tables.entityName id⟩)

def entity? (quantity : Quantity) (id : String) : Option Sensor :=
  (tables.registration? quantity id).map (·.sensor (Directory.ofTables tables))

def entities (quantity : Quantity) : ByName Sensor :=
  (registerAll (Directory.ofTables tables) tables.entityRows).value.sensors quantity

end Tables

namespace Registration

def isOf (quantity : Quantity) (id : String) (r : Registration) : Bool :=
  r.quantity = quantity && r.row.sensorId = id

variable {quantity : Quantity} {id : String} {r : Registration}

theorem ofRow?_eq_some_iff {dir : Directory} {row : EntityRow} :
    ofRow? dir row = some r ↔
      r.row = row ∧ Quantity.ofCode? row.typeCode = some r.quantity ∧ r.quantity.isChecked
        ∧ r.name = dir.nameOf row.sensorId ∧ r.name ≠ "" := by
  obtain ⟨row', quantity, name⟩ := r
  simp only [ofRow?, Option.bind_eq_some_iff]
  constructor
  · intro ⟨q, hc, h⟩
    split at h
    case isTrue hn => cases h; simp_all
    case isFalse => simp at h
  · intro ⟨hr, hc, hq, hn, he⟩
    exact ⟨quantity, hc, by simp_all⟩

theorem any_ofRow? (hq : quantity.isChecked) {dir : Directory} (hn : dir.nameOf id ≠ "")
    (row : EntityRow) :
    (ofRow? dir row).any (isOf quantity id)
      = (row.sensorId = id && Quantity.ofCode? row.typeCode = some quantity) := by
  rw [Bool.eq_iff_iff, Option.any_eq_true]
  simp only [Bool.and_eq_true, decide_eq_true_eq, ofRow?_eq_some_iff, isOf]
  constructor
  · intro ⟨r, ⟨hr, hc, _⟩, hrq, hri⟩
    exact ⟨hr ▸ hri, hrq ▸ hc⟩
  · intro ⟨hi, hc⟩
    exact ⟨⟨row, quantity, dir.nameOf id⟩, ⟨rfl, hc, hq, hi ▸ rfl, hn⟩, rfl, hi⟩

variable (tables : Tables)

theorem find?_filterMap_ofRow? (hq : quantity.isChecked) :
    (tables.entityRows.filterMap (ofRow? (Directory.ofTables tables))).find? (isOf quantity id)
      = tables.registration? quantity id := by
  have hd := Directory.nameOf_ofTables tables id
  rw [Tables.registration?]
  split
  case isTrue hn =>
    -- Whatever a row registers has a name, and all rows of the sensor give it the same.
    rw [List.find?_eq_none]
    intro r hr h
    have ⟨row, _, hrow⟩ := List.mem_filterMap.mp hr
    have ⟨hr, _, _, hname, he⟩ := ofRow?_eq_some_iff.mp hrow
    simp only [isOf, Bool.and_eq_true, decide_eq_true_eq] at h
    rw [← hr, h.2, hd, hn] at hname
    exact he hname
  case isFalse hn =>
    rw [List.find?_filterMap]
    simp only [any_ofRow? hq (hd ▸ hn)]
    cases hf : tables.entityRow? quantity id
    case none => rw [Tables.entityRow?] at hf; simp [hf]
    case some row =>
      rw [Tables.entityRow?] at hf
      have hrow := List.find?_some hf
      simp only [Bool.and_eq_true, decide_eq_true_eq] at hrow
      have hr : ofRow? (Directory.ofTables tables) row = some ⟨row, quantity, tables.entityName id⟩ :=
        ofRow?_eq_some_iff.mpr ⟨rfl, hrow.2, hq, by rw [hrow.1, hd], hn⟩
      simp [hf, hr]

end Registration

section

variable {dir : Directory} {quantity : Quantity} {id : String}

theorem sensors_register {row : EntityRow} {r : Registration}
    (h : Registration.ofRow? dir row = some r) (entities : ByQuantity) :
    (register dir entities row).value.sensors quantity
      = if r.quantity = quantity then
          (entities.sensors quantity).insertIfNew r.row.sensorId (r.sensor dir)
        else entities.sensors quantity := by
  obtain rfl := (Registration.ofRow?_eq_some_iff.mp h).1
  rw [register, h]
  dsimp only
  by_cases hq : r.quantity = quantity
  case neg => split <;> simp [ByQuantity.sensors_insert, hq]
  case pos =>
    subst hq
    rw [if_pos rfl, ByName.insertIfNew_eq_ite]
    split
    case isTrue => rfl
    case isFalse => simp [ByQuantity.sensors_insert, Registration.sensor]

theorem getElem?_register (entities : ByQuantity) (row : EntityRow) :
    ((register dir entities row).value.sensors quantity)[id]?
      = ((entities.sensors quantity)[id]?).or
          (((Registration.ofRow? dir row).filter (Registration.isOf quantity id)).map
            (·.sensor dir)) := by
  cases h : Registration.ofRow? dir row
  case none => simp [register, h]
  case some r =>
    rw [sensors_register h]
    by_cases hq : r.quantity = quantity
    case neg => simp [hq, Option.filter, Registration.isOf]
    case pos =>
      rw [if_pos hq, ByName.getElem?_insertIfNew_or]
      by_cases hi : r.row.sensorId = id <;> simp [hq, hi, Option.filter, Registration.isOf]

-- The sensor of an id and a quantity is the one that the first such row registers.
theorem getElem?_registerAll (rows : List EntityRow) :
    ((registerAll dir rows).value.sensors quantity)[id]?
      = ((rows.filterMap (Registration.ofRow? dir)).find? (Registration.isOf quantity id)).map
          (·.sensor dir) := by
  induction rows using List.reverseRecOn
  case nil => simp [registerAll]
  case append_singleton rows row ih =>
    rw [registerAll, Logged.value_foldlM_append_singleton, ← registerAll, getElem?_register, ih,
      List.filterMap_append, List.find?_append, Option.map_or]
    congr 1
    cases h : Registration.ofRow? dir row
    case none => simp [h]
    case some r => by_cases hr : Registration.isOf quantity id r <;> simp [h, hr, Option.filter]

theorem register_ne_empty {entities : ByQuantity} (h : ∀ q : Quantity, entities[q]? ≠ some ∅)
    (row : EntityRow) (q : Quantity) : (register dir entities row).value[q]? ≠ some ∅ := by
  rw [register]
  cases Registration.ofRow? dir row
  case none => exact h q
  case some r =>
    dsimp only
    split
    case isTrue => exact h q
    case isFalse =>
      simp only [Logged.value_bind, Logged.value_pure, Std.ExtTreeMap.getElem?_insert]
      split
      case isTrue => simp [Std.ExtTreeMap.insert_ne_empty]
      case isFalse => exact h q

theorem registerAll_ne_empty (rows : List EntityRow) (q : Quantity) :
    (registerAll dir rows).value[q]? ≠ some ∅ := by
  induction rows using List.reverseRecOn generalizing q
  case nil => simp [registerAll]
  case append_singleton rows row ih =>
    rw [registerAll, Logged.value_foldlM_append_singleton]
    exact register_ne_empty ih row q

end

namespace Tables

variable {tables : Tables} {quantity : Quantity}

theorem getElem?_entities (hq : quantity.isChecked) (tables : Tables) (id : String) :
    (tables.entities quantity)[id]? = tables.entity? quantity id := by
  rw [entities, getElem?_registerAll, Registration.find?_filterMap_ofRow? tables hq, entity?]

-- Rows of the other quantities register nothing.
theorem entities_eq_empty (hq : quantity.isChecked = false) (tables : Tables) :
    tables.entities quantity = ∅ := by
  apply Std.ExtTreeMap.ext_getElem?
  intro id
  rw [entities, getElem?_registerAll, Std.ExtTreeMap.getElem?_empty, Option.map_eq_none_iff,
    List.find?_eq_none]
  intro r hr h
  have ⟨row, _, hrow⟩ := List.mem_filterMap.mp hr
  have ⟨_, _, hc, _⟩ := Registration.ofRow?_eq_some_iff.mp hrow
  simp only [Registration.isOf, Bool.and_eq_true, decide_eq_true_eq] at h
  simp [h.1, hq] at hc

end Tables

namespace Registration

variable (dir : Directory) (r : Registration)

def measured? : Option Measurement :=
  if r.device.state = .ok then
    (r.row.measure r.quantity (dir.thresholdsOf r.row.sensorId)).toOption
  else
    none

theorem sensor_eq : r.sensor dir =
    { item := r.name, quantity := r.quantity, description := r.name, source := .entity,
      rawState := r.row.state, adminState := dir.adminState? r.row.sensorId,
      reading := (r.measured? dir).map (·.reading),
      limits := ((r.measured? dir).map (·.limits)).getD {},
      device := if r.device.state = .ok ∧ r.measured? dir = none then .defect else r.device } := by
  simp only [sensor, build, measurement?, measured?]
  by_cases hd : r.device.state = .ok
  case neg => simp [hd]
  case pos =>
    simp only [if_pos hd]
    cases r.row.measure r.quantity (dir.thresholdsOf r.row.sensorId) <;> simp [hd, Except.toOption]

theorem sensor_congr {dir dir' : Directory} {r : Registration}
    (ha : dir.adminState? r.row.sensorId = dir'.adminState? r.row.sensorId)
    (hl : ∀ factor, Threshold.limits r.quantity factor (dir.thresholdsOf r.row.sensorId)
      = Threshold.limits r.quantity factor (dir'.thresholdsOf r.row.sensorId)) :
    r.sensor dir = r.sensor dir' := by
  simp only [sensor, build, measurement?, EntityRow.measure, ha, hl]

theorem sensor_item : (r.sensor dir).item = r.name := by
  rw [sensor_eq]

theorem sensor_quantity : (r.sensor dir).quantity = r.quantity := by
  rw [sensor_eq]

theorem sensor_source : (r.sensor dir).source = .entity := by
  rw [sensor_eq]

theorem sensor_obsolete : (r.sensor dir).obsolete = false := by
  rw [sensor_eq]

end Registration

namespace Tables

variable {tables : Tables} {quantity : Quantity} {id : String} {sensor : Sensor}

theorem exists_entityRow (h : tables.entity? quantity id = some sensor) :
    ∃ row, tables.entityRow? quantity id = some row
      ∧ sensor = Registration.sensor (Directory.ofTables tables)
          ⟨row, quantity, tables.entityName id⟩ := by
  have ⟨r, hr, hs⟩ := Option.map_eq_some_iff.mp h
  rw [registration?, Option.ite_none_left_eq_some, Option.map_eq_some_iff] at hr
  have ⟨_, row, hrow, hr⟩ := hr
  exact ⟨row, hrow, hr ▸ hs.symm⟩

theorem item_of_entity? (h : tables.entity? quantity id = some sensor) :
    sensor.item = tables.entityName id := by
  have ⟨_, _, hs⟩ := exists_entityRow h
  rw [hs, Registration.sensor_item]

theorem quantity_of_entity? (h : tables.entity? quantity id = some sensor) :
    sensor.quantity = quantity := by
  have ⟨_, _, hs⟩ := exists_entityRow h
  rw [hs, Registration.sensor_quantity]

theorem source_of_entity? (h : tables.entity? quantity id = some sensor) :
    sensor.source = .entity := by
  have ⟨_, _, hs⟩ := exists_entityRow h
  rw [hs, Registration.sensor_source]

theorem obsolete_of_entity? (h : tables.entity? quantity id = some sensor) :
    sensor.obsolete = false := by
  have ⟨_, _, hs⟩ := exists_entityRow h
  rw [hs, Registration.sensor_obsolete]

end Tables
end SensorWatch
