import SensorWatch.Check.Optical
import SensorWatch.Check.Temperature
import SensorWatch.Proofs.Row
import SensorWatch.Proofs.Section.Directory
import SensorWatch.Proofs.Section.Related
import SensorWatch.Proofs.Section.Tombstone

namespace SensorWatch

-- Two rows with the same fields, except at some places of a row of the sensor.
def SameBut (id : String) (places : List Nat) (texts texts' : List String) : Prop :=
  texts.length = texts'.length
    ∧ ∀ k, texts[k]? = texts'[k]? ∨ (texts[0]? = some id ∧ k ∈ places)

namespace SameBut

variable {id : String} {places : List Nat} {texts texts' : List String}

theorem getElem?_eq (h : SameBut id places texts texts') {k : Nat} (hk : k ∉ places) :
    texts[k]? = texts'[k]? :=
  (h.2 k).resolve_right fun hp => hk hp.2

theorem eq_of_ne (h : SameBut id places texts texts') (hi : texts[0]? ≠ some id) :
    texts = texts' :=
  List.ext_getElem? fun k => (h.2 k).resolve_right fun hp => hi hp.1

theorem iff_forall_lt : SameBut id places texts texts' ↔ texts.length = texts'.length ∧
    ∀ k < texts.length, texts[k]? = texts'[k]? ∨ (texts[0]? = some id ∧ k ∈ places) := by
  refine and_congr_right fun hl => ⟨fun h k _ => h k, fun h k => ?_⟩
  by_cases hk : k < texts.length
  case pos => exact h k hk
  case neg =>
    have hk := Nat.not_lt.mp hk
    exact .inl <| (List.getElem?_eq_none hk).trans (List.getElem?_eq_none (hl ▸ hk)).symm

end SameBut

instance {id places texts texts'} : Decidable (SameBut id places texts texts') :=
  decidable_of_iff _ SameBut.iff_forall_lt.symm

-- Rows of the entity table that agree in all but their numbers, and in these too unless they are
-- rows of the sensor.
structure EntityRow.Alike (id : String) (row row' : EntityRow) : Prop where
  sensorId : row.sensorId = row'.sensorId
  typeCode : row.typeCode = row'.typeCode
  state : row.state = row'.state
  eq_of_ne : row.sensorId ≠ id → row = row'

theorem EntityRow.alike_of_sameBut {id : String} {row row' : EntityRow}
    (h : SameBut id [2, 3, 4] row.fields row'.fields) : row.Alike id row' where
  sensorId := Option.some.inj (h.getElem?_eq (by decide : 0 ∉ _))
  typeCode := Option.some.inj (h.getElem?_eq (by decide : 1 ∉ _))
  state := Option.some.inj (h.getElem?_eq (by decide : 5 ∉ _))
  eq_of_ne hi := EntityRow.readsFields.fields_inj <| h.eq_of_ne (hi <| Option.some.inj ·)

structure MonitorRow.Alike (id : String) (row row' : MonitorRow) : Prop where
  sensorId : row.sensorId = row'.sensorId
  description : row.description = row'.description
  state : row.state = row'.state
  eq_of_ne : row.sensorId ≠ id → row = row'

theorem MonitorRow.alike_of_sameBut {id : String} {row row' : MonitorRow}
    (h : SameBut id [2, 3] row.fields row'.fields) : row.Alike id row' where
  sensorId := Option.some.inj (h.getElem?_eq (by decide : 0 ∉ _))
  description := Option.some.inj (h.getElem?_eq (by decide : 1 ∉ _))
  state := Option.some.inj (h.getElem?_eq (by decide : 4 ∉ _))
  eq_of_ne hi := MonitorRow.readsFields.fields_inj <| h.eq_of_ne (hi <| Option.some.inj ·)

def namesSensor (id : String) (texts : List String) : Bool :=
  texts.head?.any (Text.before '.' · = id)

theorem sensorId_of_namesSensor {id : String} {texts : List String} {row : ThresholdRow}
    (h : namesSensor id texts) (hr : ThresholdRow.read texts = .ok row) : row.sensorId = id := by
  unfold ThresholdRow.read at hr
  split at hr <;> cases hr
  simpa [namesSensor] using h

theorem filter_readable_thresholds {id other : String} (ho : other ≠ id)
    (rows : List (List String)) :
    (readable ThresholdRow.read (rows.filter (!namesSensor id ·))).filter (·.sensorId = other)
      = (readable ThresholdRow.read rows).filter (·.sensorId = other) := by
  induction rows
  case nil => rfl
  case cons texts rows ih =>
    by_cases hn : namesSensor id texts
    case neg => simp [hn, readable_cons, ih]
    case pos =>
      have hr : (ThresholdRow.read texts).toOption.toList.filter (·.sensorId = other) = [] := by
        cases hr : ThresholdRow.read texts
        case error  => rfl
        case ok row => simp [Except.toOption, sensorId_of_namesSensor hn hr, ho.symm]
      simp [hn, readable_cons, ih, hr]

structure Tables.SameButNumbers (id : String) (tables tables' : Tables) : Prop where
  descriptions : tables.descriptions = tables'.descriptions
  -- Scale, precision and value of the sensor may differ,
  sensorStates : List.Forall₂ (SameBut id [2, 3, 4]) tables.sensorStates tables'.sensorStates
  -- its thresholds altogether, in what they say and in how many they are,
  thresholds : tables.thresholds.filter (!namesSensor id ·)
    = tables'.thresholds.filter (!namesSensor id ·)
  -- and what the environment monitor says of its value and its maximum.
  envMon : List.Forall₂ (SameBut id [2, 3]) tables.envMon tables'.envMon
  adminStates : tables.adminStates = tables'.adminStates

namespace Sensor

def unmeasured (sensor : Sensor) : Sensor :=
  { sensor with reading := none, device := .defect, limits := {} }

variable {sensor sensor' : Sensor} (h : sensor.unmeasured = sensor'.unmeasured)

include h

theorem item_of_unmeasured : sensor.item = sensor'.item :=
  (congrArg Sensor.item h :)

theorem description_of_unmeasured : sensor.description = sensor'.description :=
  (congrArg Sensor.description h :)

theorem rawState_of_unmeasured : sensor.rawState = sensor'.rawState :=
  (congrArg Sensor.rawState h :)

end Sensor

namespace Registration

variable {dir : Directory} {r : Registration}

theorem unmeasured_sensor : (r.sensor dir).unmeasured =
    { item := r.name, quantity := r.quantity, description := r.name, source := .entity,
      rawState := r.row.state, adminState := dir.adminState? r.row.sensorId,
      device := .defect } := by
  rw [sensor_eq, Sensor.unmeasured]

end Registration

theorem MonitorRow.unmeasured_sensor {row : MonitorRow} {entity : Option Sensor} {item : String} :
    (row.sensor entity item).unmeasured =
      { item := item, quantity := .celsius,
        description := (entity.map (·.description)).getD row.description, source := .envMon,
        rawState := row.state, device := .defect } := by
  rw [sensor_eq, Sensor.unmeasured]

namespace Tables

def namesOf (tables : Tables) (id : String) : Set String :=
  { item |
    (∃ quantity sensor, tables.entity? quantity id = some sensor ∧ sensor.item = item)
      ∨ ∃ row ∈ tables.monitorRows, row.sensorId = id ∧ row.name = item }

theorem monitorItem_mem_namesOf {tables : Tables} {row : MonitorRow}
    (h : row ∈ tables.monitorRows) : tables.monitorItem row ∈ tables.namesOf row.sensorId := by
  rw [monitorItem]
  split
  case isTrue hs =>
    obtain ⟨sensor, hk⟩ := Option.isSome_iff_exists.mp (isSuperseded_iff.mp hs).2
    have he := (Option.filter_eq_some_iff.mp hk).1
    exact .inl ⟨_, sensor, he, item_of_entity? he⟩
  case isFalse => exact .inr ⟨row, h, rfl, rfl⟩

namespace SameButNumbers

variable {id : String} {tables tables' : Tables} (h : SameButNumbers id tables tables')

include h

theorem description?_eq : tables.description? = tables'.description? := by
  funext other
  simp only [description?, descriptionRows, h.descriptions]

theorem adminState?_eq :
    (Directory.ofTables tables).adminState? = (Directory.ofTables tables').adminState? := by
  apply Directory.adminState?_congr <;>
    simp [Directory.interface?, Directory.named, Directory.ofTables_eq, descriptionRows,
      interfaceRows, h.descriptions, h.adminStates]

theorem thresholdsOf_eq {other : String} (ho : other ≠ id) :
    (Directory.ofTables tables).thresholdsOf other
      = (Directory.ofTables tables').thresholdsOf other := by
  rw [Directory.thresholdsOf_ofTables, Directory.thresholdsOf_ofTables, thresholdRows,
    thresholdRows, ← filter_readable_thresholds ho, h.thresholds, filter_readable_thresholds ho]

theorem entityRows : List.Forall₂ (EntityRow.Alike id) tables.entityRows tables'.entityRows :=
  EntityRow.readsFields.rel_readable h.sensorStates (·.1) EntityRow.alike_of_sameBut

theorem monitorRows : List.Forall₂ (MonitorRow.Alike id) tables.monitorRows tables'.monitorRows :=
  MonitorRow.readsFields.rel_readable h.envMon (·.1) MonitorRow.alike_of_sameBut

theorem entity? (quantity : Quantity) (other : String) :
    Option.Rel (fun s s' => s.unmeasured = s'.unmeasured ∧ (other ≠ id → s = s'))
      (tables.entity? quantity other) (tables'.entity? quantity other) := by
  refine rel_entity? h.description?_eq h.entityRows ?keys ?sensors
  case keys =>
    intro row row' ha
    exact ⟨ha.sensorId, by rw [ha.typeCode]⟩
  case sensors =>
    intro row row' name ha hi
    constructor
    case left =>
      simp only [Registration.unmeasured_sensor, ha.sensorId, ha.state, h.adminState?_eq]
    case right =>
      intro ho
      cases ha.eq_of_ne (hi ▸ ho)
      refine Registration.sensor_congr (by rw [h.adminState?_eq]) ?_
      intro factor
      rw [h.thresholdsOf_eq (hi ▸ ho)]

theorem known? (other : String) :
    Option.Rel (fun s s' => s.unmeasured = s'.unmeasured ∧ (other ≠ id → s = s'))
      (tables.known? other) (tables'.known? other) :=
  (h.entity? .celsius other).filter fun ⟨hu, _⟩ => by rw [Sensor.rawState_of_unmeasured hu]

theorem sensor_eq {row row' : MonitorRow} (hr : row.Alike id row') (item : String) :
    let sensor := row.sensor (tables.known? row.sensorId) item
    let sensor' := row'.sensor (tables'.known? row'.sensorId) item
    sensor.unmeasured = sensor'.unmeasured ∧ (row.sensorId ≠ id → sensor = sensor') := by
  have hk := h.known? row.sensorId
  rw [← hr.sensorId]
  constructor
  case left =>
    have hd : (tables.known? row.sensorId).map (·.description)
        = (tables'.known? row.sensorId).map (·.description) :=
      hk.map_eq fun hs => Sensor.description_of_unmeasured hs.1
    rw [MonitorRow.unmeasured_sensor, MonitorRow.unmeasured_sensor, hd, hr.description, hr.state]
  case right =>
    intro hi
    cases hr.eq_of_ne hi
    rw [hk.eq fun hs => hs.2 hi]

theorem related :
    Related (fun item s s' => s.unmeasured = s'.unmeasured ∧ (item ∉ tables.namesOf id → s = s'))
      tables tables' where
  description? := h.description?_eq
  entity? quantity other _ := by
    have hr := h.entity? quantity other
    cases he : tables.entity? quantity other <;> cases he' : tables'.entity? quantity other
    case none.none => exact .none
    case some.some sensor sensor' =>
      have ⟨hu, hs⟩ : sensor.unmeasured = sensor'.unmeasured ∧ (other ≠ id → sensor = sensor') := by
        simpa [he, he'] using hr
      refine .some ⟨Sensor.item_of_unmeasured hu, ?_, hu, ?_⟩
      · rw [Sensor.rawState_of_unmeasured hu]
      · intro hn
        refine hs ?_
        intro ho
        exact hn <| .inl ⟨quantity, sensor, ho ▸ he, rfl⟩
    all_goals simp [he, he'] at hr
  monitorRows := by
    refine h.monitorRows.and_mem.imp ?_
    intro row row' ⟨hr, hm⟩
    have hs := h.sensor_eq hr (tables.monitorItem row)
    refine ⟨hr.sensorId, ?name, ?tombstone, hs.1, ?sensor⟩
    case name => rw [MonitorRow.name, MonitorRow.name, hr.description, hr.sensorId]
    case tombstone => rw [hr.state]; exact ⟨rfl, fun _ => rfl⟩
    case sensor =>
      intro hn
      refine hs.2 ?_
      intro hi
      exact hn (hi ▸ monitorItem_mem_namesOf hm)

end SameButNumbers
end Tables

namespace Section

-- The numbers of a sensor, readable or not, reach nothing but the entries under its own names; and
-- there they do not decide about what is listed, how it is described and whether it is offered.
theorem numbers_stay_isolated {id : String} {tables tables' : Tables}
    (h : tables.SameButNumbers id tables') :
    let s := ofTables tables
    let s' := ofTables tables'
    (∀ quantity item, (s.get? quantity item).map (·.unmeasured)
        = (s'.get? quantity item).map (·.unmeasured))
      ∧ s.temperatureItems = s'.temperatureItems
      ∧ (∀ discovery, s.opticalItems discovery = s'.opticalItems discovery)
      ∧ ∀ quantity item, item ∉ tables.namesOf id →
          s.get? quantity item = s'.get? quantity item := by
  intro s s'
  have hr := h.related.get?_ofTables
  have hu (quantity : Quantity) (item : String) : (s.get? quantity item).map (·.unmeasured)
      = (s'.get? quantity item).map (·.unmeasured) :=
    (hr quantity item).map_eq fun hs => hs.1
  refine ⟨hu, ?temperature, ?optical, ?others⟩
  case temperature =>
    refine items_congr ?_ (hu .celsius)
    intro sensor sensor' hs
    exact ⟨(congrArg Sensor.isTemperatureItem hs :), Sensor.item_of_unmeasured hs⟩
  case optical =>
    intro discovery
    refine items_congr ?_ (hu .dBm)
    intro sensor sensor' hs
    exact ⟨(congrArg (·.isOpticalItem discovery) hs :), Sensor.item_of_unmeasured hs⟩
  case others =>
    intro quantity item hn
    exact (hr quantity item).eq fun hs => hs.2 hn

def sensorPair (value : String) (thresholds : List (List String)) : Tables where
  descriptions := [["1008", "Switch 1 - Sensor 0"], ["1009", "Switch 1 - Sensor 1"]]
  sensorStates := [["1008", "8", "9", "0", "45", "1"], ["1009", "8", "9", "0", value, "1"]]
  thresholds := ["1008.1", "10", "4", "65"] :: thresholds
  envMon := [["1009", "SW#1, Sensor#2, GREEN", value, "68", "1"]]

theorem sensorPair_isolated :
    (sensorPair "41" [["1009.1", "10", "4", "60"]]).SameButNumbers "1009" (sensorPair "4l" []) ∧
      (ofTables (sensorPair "41" [["1009.1", "10", "4", "60"]])).get? .celsius "Switch 1 - Sensor 0"
        = (ofTables (sensorPair "4l" [])).get? .celsius "Switch 1 - Sensor 0" := by
  have h : (sensorPair "41" [["1009.1", "10", "4", "60"]]).SameButNumbers "1009"
      (sensorPair "4l" []) :=
    ⟨rfl, by decide +kernel, by decide +kernel, by decide +kernel, rfl⟩
  refine ⟨h, (numbers_stay_isolated h).2.2.2 .celsius "Switch 1 - Sensor 0" ?_⟩
  rintro (⟨_, sensor, he, hi⟩ | hm)
  case inl =>
    rw [Tables.item_of_entity? he] at hi
    revert hi
    decide +kernel
  case inr =>
    revert hm
    decide +kernel

end Section
end SensorWatch
