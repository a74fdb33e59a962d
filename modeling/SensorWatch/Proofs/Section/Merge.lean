import SensorWatch.Proofs.Section.Registered

namespace SensorWatch

namespace MonitorRow

variable (row : MonitorRow) (entity : Option Sensor) (item : String)

def sensor : Sensor :=
  (row.build entity item).value

def fault? : Option RowFault :=
  RowFault.of? (row.limits entity)

theorem log_build :
    (row.build entity item).log
      = ((row.fault? entity).map (.monitorSensor row.sensorId item)).toList := by
  simp only [build, fault?]
  cases row.limits entity <;> rfl

theorem sensor_eq : row.sensor entity item =
    { item := item, quantity := .celsius,
      description := (entity.map (·.description)).getD row.description, source := .envMon,
      rawState := row.state, reading := row.reading.toOption,
      limits := (row.limits entity).toOption.getD {},
      device := if (row.limits entity).toOption = none then .defect
        else .ofMonitorCode row.state } := by
  simp only [sensor, build]
  cases row.limits entity <;> simp [Except.toOption]

theorem sensor_obsolete : (row.sensor entity item).obsolete = false := by
  rw [sensor_eq]

end MonitorRow

namespace Counterparts

variable (cs : Counterparts) (row : MonitorRow) (rows : List MonitorRow) (merged : ByName Sensor)
  (item : String)

def buries : Bool :=
  cs.isSuperseded row && row.name = item

theorem getElem?_bury :
    (cs.bury row merged)[item]?
      = (if cs.buries row item then some (.tombstone item row.state) else none).or
          merged[item]? := by
  by_cases hs : cs.isSuperseded row
  case neg => simp [bury, buries, hs]
  case pos =>
    rw [bury, if_pos hs, ByName.getElem?_insert_or, buries, hs]
    by_cases hn : row.name = item <;> simp [hn]

theorem value_absorb :
    (cs.absorb row merged).value
      = (cs.bury row merged).insertIfNew (cs.item row)
          (row.sensor (cs.entity? row) (cs.item row)) := by
  rw [absorb, ByName.insertIfNew_eq_ite]
  split <;> rfl

-- A row writes a tombstone over what stood under its own name, and then offers its sensor to the
-- name that it goes by.
theorem getElem?_absorb :
    (cs.absorb row merged).value[item]?
      = ((if cs.buries row item then some (.tombstone item row.state) else none).or
          merged[item]?).or
        (if cs.item row = item then some (row.sensor (cs.entity? row) item) else none) := by
  rw [value_absorb, ByName.getElem?_insertIfNew_or, getElem?_bury]
  by_cases hi : cs.item row = item <;> simp [hi]

-- The invariant of the merge: after any rows a name holds the tombstone of the last row that buries
-- it, and where there is none the sensor of the first row that goes by the name.
theorem getElem?_absorbAll :
    (cs.absorbAll rows).value[item]?
      = ((rows.filter (cs.buries · item)).getLast?.map fun row => .tombstone item row.state).or
        ((rows.find? (cs.item · = item)).map fun row => row.sensor (cs.entity? row) item) := by
  induction rows using List.reverseRecOn
  case nil => simp [absorbAll]
  case append_singleton rows row ih =>
    rw [absorbAll, Logged.value_foldlM_append_singleton, ← absorbAll, getElem?_absorb, ih]
    simp only [List.filter_append, List.getLast?_append, List.find?_append, Option.map_or,
      Option.or_assoc]
    congr 1
    case e_a => by_cases hb : cs.buries row item <;> simp [hb]
    case e_a => by_cases hi : cs.item row = item <;> simp [hi]

end Counterparts

namespace Tables

variable (tables : Tables)

def known? (id : String) : Option Sensor :=
  (tables.entity? .celsius id).filter fun sensor =>
    ["1", "2", "3"].contains (Text.strip sensor.rawState)

-- A row is superseded by an entity sensor of its id whose state is known, if the id is described.
def isSuperseded (row : MonitorRow) : Bool :=
  (tables.description? row.sensorId).isSome && (tables.known? row.sensorId).isSome

def monitorItem (row : MonitorRow) : String :=
  if tables.isSuperseded row then tables.entityName row.sensorId else row.name

def buried (item : String) : List MonitorRow :=
  tables.monitorRows.filter fun row => tables.isSuperseded row && row.name = item

def monitored (item : String) : List MonitorRow :=
  tables.monitorRows.filter (tables.monitorItem · = item)

def bearers (quantity : Quantity) (item : String) : Set String :=
  { id | ∃ sensor, tables.entity? quantity id = some sensor ∧ sensor.item = item }

-- Of the entity sensors with a name the one whose id is the least.
def FirstBearer (quantity : Quantity) (item : String) (sensor : Sensor) : Prop :=
  ∃ id, IsLeast (tables.bearers quantity item) id ∧ tables.entity? quantity id = some sensor

theorem FirstBearer.item_eq {tables : Tables} {quantity : Quantity} {item : String}
    {sensor : Sensor} (h : tables.FirstBearer quantity item sensor) : sensor.item = item := by
  have ⟨id, hl, he⟩ := h
  have ⟨sensor', he', hi⟩ := hl.1
  cases he.symm.trans he'
  exact hi

-- What stands under a name of the celsius partition. A tombstone comes before all others: of the
-- superseded rows that had the name the last one left it. Then comes the first row that goes by the
-- name, and only then the entity sensors that have it.
inductive Holds (item : String) : Sensor → Prop
  | tombstone {row} :
    (tables.buried item).getLast? = some row → Holds item (.tombstone item row.state)
  | monitor {row} :
    tables.buried item = [] → (tables.monitored item).head? = some row →
      Holds item (row.sensor (tables.known? row.sensorId) item)
  | entity {sensor} :
    tables.buried item = [] → tables.monitored item = [] → tables.FirstBearer .celsius item sensor →
      Holds item sensor

def counterparts : Counterparts :=
  ⟨(Directory.ofTables tables).names, tables.entities .celsius⟩

theorem counterparts_entity? (row : MonitorRow) :
    tables.counterparts.entity? row = tables.known? row.sensorId := by
  have hc : tables.counterparts.sensors[row.sensorId]? = tables.entity? .celsius row.sensorId :=
    tables.getElem?_entities rfl row.sensorId
  rw [Counterparts.entity?, hc, known?]
  cases h : tables.entity? .celsius row.sensorId
  case none => rfl
  case some sensor => simp [Option.filter, Sensor.isKnownEntity, source_of_entity? h]

theorem counterparts_newName? (row : MonitorRow) :
    tables.counterparts.newName? row
      = if (tables.known? row.sensorId).isSome then tables.description? row.sensorId else none := by
  rw [Counterparts.newName?, counterparts_entity?]
  simp only [counterparts, Directory.names_ofTables]

theorem counterparts_isSuperseded (row : MonitorRow) :
    tables.counterparts.isSuperseded row = tables.isSuperseded row := by
  rw [Counterparts.isSuperseded, counterparts_newName?, isSuperseded]
  cases (tables.known? row.sensorId).isSome <;> simp

theorem counterparts_item (row : MonitorRow) :
    tables.counterparts.item row = tables.monitorItem row := by
  rw [Counterparts.item, counterparts_newName?, monitorItem, isSuperseded, entityName]
  cases tables.description? row.sensorId <;> cases tables.known? row.sensorId <;> simp

theorem keysWith_entities {quantity : Quantity} (hq : quantity.isChecked) {item : String} :
    (tables.entities quantity).keysWith (·.item = item) = tables.bearers quantity item := by
  simp [ByName.keysWith, bearers, tables.getElem?_entities hq]

theorem find?_entities {quantity : Quantity} (hq : quantity.isChecked) {item sensor} :
    (tables.entities quantity).values.find? (·.item = item) = some sensor ↔
      tables.FirstBearer quantity item sensor := by
  rw [ByName.find?_values_eq_some_iff, tables.keysWith_entities hq, FirstBearer]
  simp only [tables.getElem?_entities hq]

theorem exists_firstBearer {quantity : Quantity} (hq : quantity.isChecked) {item : String}
    (h : (tables.bearers quantity item).Nonempty) :
    ∃ sensor, tables.FirstBearer quantity item sensor := by
  rw [← tables.keysWith_entities hq, ← ByName.find?_toList_isSome] at h
  have ⟨pair, hp⟩ := Option.isSome_iff_exists.mp h
  refine ⟨pair.2, (tables.find?_entities hq).mp ?_⟩
  simp [ByName.find?_values, hp]

end Tables

theorem getElem?_fill {sensors merged : ByName Sensor} {item : String} :
    (fill sensors merged)[item]? = merged[item]?.or (sensors.values.find? (·.item = item)) := by
  have h := ByName.getElem?_foldl_insertIfNew (·.item) id sensors.values merged item
  simpa [fill] using h

section

variable (entities merged : ByQuantity) (quantity : Quantity)

theorem find?_toList_quantity :
    entities.toList.find? (·.1 = quantity) = entities[quantity]?.map (quantity, ·) := by
  cases h : entities[quantity]?
  case none =>
    rw [Option.map_none, List.find?_eq_none]
    intro (q, sensors) hm hq
    obtain rfl := of_decide_eq_true hq
    simp [Std.ExtTreeMap.mem_toList_iff_getElem?_eq_some.mp hm] at h
  case some sensors =>
    have hm : (quantity, sensors) ∈ entities.toList :=
      Std.ExtTreeMap.mem_toList_iff_getElem?_eq_some.mpr h
    have ⟨part, hf⟩ := Option.isSome_iff_exists.mp
      (List.find?_isSome.mpr ⟨_, hm, decide_eq_true rfl⟩ :
        (entities.toList.find? (·.1 = quantity)).isSome)
    have hq : part.1 = quantity := by simpa using List.find?_some hf
    have hp : entities[part.1]? = some part.2 :=
      Std.ExtTreeMap.mem_toList_iff_getElem?_eq_some.mp (List.mem_of_find?_eq_some hf)
    rw [hq, h] at hp
    rw [hf, Option.map_some, Option.some.inj hp, ← hq]

theorem getElem?_foldl_fill {parts : List (Quantity × ByName Sensor)}
    (h : parts.Pairwise fun a b => a.1 ≠ b.1) :
    (parts.foldl (fun merged (q, sensors) => merged.insert q (fill sensors (merged.sensors q)))
        merged)[quantity]?
      = ((parts.find? (·.1 = quantity)).map fun part =>
          fill part.2 (merged.sensors quantity)).or merged[quantity]? := by
  induction parts generalizing merged
  case nil => simp
  case cons part parts ih =>
    have ⟨hp, h⟩ := List.pairwise_cons.mp h
    rw [List.foldl_cons, ih _ h, List.find?_cons, ByQuantity.sensors_insert,
      Std.ExtTreeMap.getElem?_insert]
    by_cases hq : part.1 = quantity
    case neg => simp [hq]
    case pos =>
      have hn : parts.find? (·.1 = quantity) = none := by
        rw [List.find?_eq_none]
        intro other hm ho
        exact hp other hm (hq.trans (of_decide_eq_true ho).symm)
      simp [hq, hn]

theorem getElem?_fillAll :
    (fillAll entities merged)[quantity]?
      = (entities[quantity]?.map (fill · (merged.sensors quantity))).or merged[quantity]? := by
  rw [fillAll, getElem?_foldl_fill _ _ (ByQuantity.pairwise_toList entities),
    find?_toList_quantity, Option.map_map]
  rfl

theorem sensors_fillAll :
    ByQuantity.sensors (fillAll entities merged) quantity
      = fill (entities.sensors quantity) (merged.sensors quantity) := by
  simp only [ByQuantity.sensors, getElem?_fillAll]
  cases entities[quantity]?
  case none =>
    have hv : (∅ : ByName Sensor).values = [] := rfl
    simp [fill, hv]
  case some => simp

end

namespace Section

variable (tables : Tables) (quantity : Quantity) (item : String) (sensor : Sensor)

theorem partitions_ofTables : (ofTables tables).partitions
    = fillAll (registerAll (Directory.ofTables tables) tables.entityRows).value
        ((∅ : ByQuantity).insert .celsius
          (tables.counterparts.absorbAll tables.monitorRows).value) := by
  simp only [ofTables, parse, Logged.value_bind, Logged.value_pure, value_readRows]
  rfl

theorem sensors_ofTables :
    (ofTables tables).partitions.sensors quantity
      = fill (tables.entities quantity)
          (if .celsius = quantity then (tables.counterparts.absorbAll tables.monitorRows).value
          else ∅) := by
  rw [partitions_ofTables, sensors_fillAll, ByQuantity.sensors_insert, ByQuantity.sensors_empty]
  rfl

theorem get?_celsius_eq :
    (ofTables tables).get? .celsius item
      = ((tables.buried item).getLast?.map fun row => .tombstone item row.state).or
        (((tables.monitored item).head?.map fun row =>
            row.sensor (tables.known? row.sensorId) item).or
          ((tables.entities .celsius).values.find? (·.item = item))) := by
  rw [get?, sensors_ofTables, if_pos rfl, getElem?_fill, Counterparts.getElem?_absorbAll,
    Option.or_assoc, ← List.head?_filter]
  simp only [Counterparts.buries, Tables.counterparts_isSuperseded, Tables.counterparts_item,
    Tables.counterparts_entity?, Tables.buried, Tables.monitored]

theorem get?_of_ne_celsius {quantity : Quantity} (h : quantity ≠ .celsius) :
    (ofTables tables).get? quantity item
      = (tables.entities quantity).values.find? (·.item = item) := by
  rw [get?, sensors_ofTables, if_neg h.symm, getElem?_fill, Std.ExtTreeMap.getElem?_empty,
    Option.none_or]

theorem get?_of_unchecked {quantity : Quantity} (h : quantity.isChecked = false) :
    (ofTables tables).get? quantity item = none := by
  have hq : quantity ≠ .celsius := by
    rintro rfl
    cases h
  rw [get?_of_ne_celsius tables item hq, Tables.entities_eq_empty h]
  rfl

theorem get?_celsius_eq_some_iff :
    (ofTables tables).get? .celsius item = some sensor ↔ tables.Holds item sensor := by
  rw [get?_celsius_eq]
  constructor
  · intro h
    cases hb : (tables.buried item).getLast?
    case some row =>
      simp only [hb, Option.map_some, Option.some_or, Option.some.injEq] at h
      exact h ▸ .tombstone hb
    case none =>
      have hb' := List.getLast?_eq_none_iff.mp hb
      cases hm : (tables.monitored item).head?
      case some row =>
        simp only [hb, hm, Option.map_none, Option.none_or, Option.map_some, Option.some_or,
          Option.some.injEq] at h
        exact h ▸ .monitor hb' hm
      case none =>
        simp only [hb, hm, Option.map_none, Option.none_or] at h
        exact .entity hb' (List.head?_eq_none_iff.mp hm) ((tables.find?_entities rfl).mp h)
  · intro h
    cases h
    case tombstone row hb => simp [hb]
    case monitor row hb hm => simp [hb, hm]
    case entity hb hm he => simp [hb, hm, (tables.find?_entities rfl).mpr he]

theorem get?_dBm_eq_some_iff :
    (ofTables tables).get? .dBm item = some sensor ↔ tables.FirstBearer .dBm item sensor := by
  rw [get?_of_ne_celsius tables item (by decide : Quantity.dBm ≠ .celsius)]
  exact tables.find?_entities rfl

theorem origin_of_get? {tables : Tables} {quantity : Quantity} {item : String} {sensor : Sensor}
    (h : (ofTables tables).get? quantity item = some sensor) :
    (quantity = .celsius ∧ tables.Holds item sensor)
      ∨ (quantity = .dBm ∧ tables.FirstBearer .dBm item sensor) := by
  by_cases hc : quantity.isChecked
  case neg => simp [get?_of_unchecked tables item (Bool.not_eq_true _ ▸ hc)] at h
  case pos =>
    rcases Quantity.isChecked_iff.mp hc with rfl | rfl
    · exact .inl ⟨rfl, (get?_celsius_eq_some_iff ..).mp h⟩
    · exact .inr ⟨rfl, (get?_dBm_eq_some_iff ..).mp h⟩

end Section
end SensorWatch
