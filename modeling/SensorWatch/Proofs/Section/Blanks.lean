import SensorWatch.Check.Optical
import SensorWatch.Check.Temperature
import SensorWatch.Proofs.Row
import SensorWatch.Proofs.Section.Interface
import SensorWatch.Proofs.Section.Numbers
import SensorWatch.Proofs.Section.Related
import SensorWatch.Proofs.Section.Valid

namespace SensorWatch

def stripAt (places : List Nat) (texts : List String) : List String :=
  texts.mapIdx fun k text => if k ∈ places then Text.strip text else text

theorem length_stripAt {places : List Nat} {texts : List String} :
    (stripAt places texts).length = texts.length := by
  simp [stripAt]

theorem ReadsFields.rel_stripped {α : Type} {read : List String → Except RowFault α}
    {fields : α → List String} {width : Nat} (h : ReadsFields read fields width) {places : List Nat}
    {stripped : α → α} (hs : ∀ row, stripAt places (fields row) = fields (stripped row))
    {rows rows' : List (List String)} (hr : rows.map (stripAt places) = rows'.map (stripAt places)) :
    List.Forall₂ (fun row row' => stripped row = stripped row')
      (readable read rows) (readable read rows') := by
  refine h.rel_readable (.of_map_eq hr) ?_ ?_
  · intro texts texts' hs
    rw [← length_stripAt, hs, length_stripAt]
  · intro row row' hf
    rw [hs, hs] at hf
    exact h.fields_inj hf

-- Tables without white space around codes and numbers, and around the descriptions in the environment
-- monitor. The ids and names of the other tables stay as they are.
def Tables.stripped (tables : Tables) : Tables where
  descriptions := tables.descriptions
  sensorStates := tables.sensorStates.map (stripAt [1, 2, 3, 4, 5])
  thresholds := tables.thresholds.map (stripAt [1, 2, 3])
  envMon := tables.envMon.map (stripAt [1, 2, 3, 4])
  adminStates := tables.adminStates.map (stripAt [1])

def EntityRow.stripped (row : EntityRow) : EntityRow where
  sensorId := row.sensorId
  typeCode := Text.strip row.typeCode
  scale := Text.strip row.scale
  precision := Text.strip row.precision
  value := Text.strip row.value
  state := Text.strip row.state

theorem EntityRow.stripAt_fields (row : EntityRow) :
    stripAt [1, 2, 3, 4, 5] row.fields = row.stripped.fields := by
  simp [stripAt, fields, stripped]

def MonitorRow.stripped (row : MonitorRow) : MonitorRow where
  sensorId := row.sensorId
  description := Text.strip row.description
  value := Text.strip row.value
  maxThreshold := Text.strip row.maxThreshold
  state := Text.strip row.state

theorem MonitorRow.stripAt_fields (row : MonitorRow) :
    stripAt [1, 2, 3, 4] row.fields = row.stripped.fields := by
  simp [stripAt, fields, stripped]

def InterfaceRow.stripped (row : InterfaceRow) : InterfaceRow where
  name := row.name
  code := Text.strip row.code

theorem InterfaceRow.stripAt_fields (row : InterfaceRow) :
    stripAt [1] row.fields = row.stripped.fields := by
  simp [stripAt, fields, stripped]

theorem ThresholdRow.toOption_read_of_length_ne {texts : List String} (h : texts.length ≠ 4) :
    (read texts).toOption = none := by
  unfold read
  split
  case h_1 => exact absurd rfl h
  case h_2 => rfl

theorem ThresholdRow.rel_read {texts texts' : List String}
    (h : stripAt [1, 2, 3] texts = stripAt [1, 2, 3] texts') :
    Option.Rel (fun row row' => row.sensorId = row'.sensorId ∧
        row.threshold.toOption = row'.threshold.toOption)
      (read texts).toOption (read texts').toOption := by
  have hl : texts.length = texts'.length := by rw [← length_stripAt, h, length_stripAt]
  by_cases hw : texts.length = 4
  case pos =>
    match texts, texts', hw, hl ▸ hw with
    | [id, severity, relation, value], [id', severity', relation', value'], _, _ =>
      have ⟨hi, hs, hr, hv⟩ : id = id' ∧ Text.strip severity = Text.strip severity' ∧
          Text.strip relation = Text.strip relation' ∧ Text.strip value = Text.strip value' := by
        simpa [stripAt] using h
      refine .some ⟨by rw [hi], ?_⟩
      simp only [threshold, Severity.ofCode?, Relation.ofCode?, hs, hr, hv]
      cases Decimal.read? (Text.strip value') <;> rfl
  case neg =>
    rw [toOption_read_of_length_ne hw, toOption_read_of_length_ne (hl ▸ hw)]
    exact .none

-- A sensor without what no check looks at: white space around the raw state, and the description of
-- a sensor that is not from the entity table.
def Sensor.unpadded (sensor : Sensor) : Sensor :=
  { sensor with
    rawState := Text.strip sensor.rawState
    description := if sensor.source = .entity then sensor.description else "" }

namespace Sensor

variable {sensor sensor' : Sensor} (h : sensor.unpadded = sensor'.unpadded)

include h

theorem item_of_unpadded : sensor.item = sensor'.item :=
  (congrArg Sensor.item h :)

theorem rawState_of_unpadded : Text.strip sensor.rawState = Text.strip sensor'.rawState :=
  (congrArg Sensor.rawState h :)

theorem limits_of_unpadded : sensor.limits = sensor'.limits :=
  (congrArg Sensor.limits h :)

theorem isTemperatureItem_of_unpadded : sensor.isTemperatureItem = sensor'.isTemperatureItem := by
  have ho : sensor.obsolete = sensor'.obsolete := (congrArg Sensor.obsolete h :)
  have hs : sensor.source = sensor'.source := (congrArg Sensor.source h :)
  rw [isTemperatureItem, isTemperatureItem, ho, hs, rawState_of_unpadded h]

theorem isOpticalItem_of_unpadded (discovery : OpticalDiscovery) :
    sensor.isOpticalItem discovery = sensor'.isOpticalItem discovery := by
  have hs : sensor.source = sensor'.source := (congrArg Sensor.source h :)
  have ha : sensor.adminState = sensor'.adminState := (congrArg Sensor.adminState h :)
  rw [isOpticalItem, isOpticalItem, hs, ha, rawState_of_unpadded h]

theorem checkTemperature_of_unpadded (params : TemperatureParams) (name : String) (now : Instant)
    (store : SampleStore) :
    sensor.checkTemperature params name now store
      = sensor'.checkTemperature params name now store :=
  (congrArg (·.checkTemperature params name now store) h :)

theorem checkPower_of_unpadded (hs : sensor.source = .entity) (params : OpticalParams) :
    sensor.checkPower params = sensor'.checkPower params := by
  have hs' : sensor'.source = .entity := (congrArg Sensor.source h :).symm.trans hs
  have hd : sensor.description = sensor'.description := by
    have hd := congrArg Sensor.description h
    rwa [unpadded, unpadded, if_pos hs, if_pos hs'] at hd
  have hm : sensor.measured = sensor'.measured := (congrArg Sensor.measured h :)
  have hv : sensor.device = sensor'.device := (congrArg Sensor.device h :)
  rw [checkPower, checkPower, hm, hv, hd, limits_of_unpadded h]

end Sensor

theorem Registration.unpadded_sensor {dir dir' : Directory} {r r' : Registration}
    (hr : r.row.stripped = r'.row.stripped) (hq : r.quantity = r'.quantity) (hn : r.name = r'.name)
    (ha : dir.adminState? = dir'.adminState?)
    (ht : dir.thresholdsOf = dir'.thresholdsOf) :
    (r.sensor dir).unpadded = (r'.sensor dir').unpadded := by
  have hi : r.row.sensorId = r'.row.sensorId := (congrArg EntityRow.sensorId hr :)
  have hs : Text.strip r.row.state = Text.strip r'.row.state := (congrArg EntityRow.state hr :)
  have hd : r.device = r'.device := by
    simp only [device, DeviceState.ofEntityCode, hs]
  have hf : r.row.figures? = r'.row.figures? := by
    have hc : Text.strip r.row.scale = Text.strip r'.row.scale := (congrArg EntityRow.scale hr :)
    have hp : Text.strip r.row.precision = Text.strip r'.row.precision :=
      (congrArg EntityRow.precision hr :)
    have hv : Text.strip r.row.value = Text.strip r'.row.value := (congrArg EntityRow.value hr :)
    simp only [EntityRow.figures?, hc, hp, hv]
  have hm : r.measured? dir = r'.measured? dir' := by
    simp only [measured?, EntityRow.toOption_measure, hd, hf, hq, hi, ht]
  simp only [sensor_eq, Sensor.unpadded, hs, hd, hq, hn, ha, hi, hm]

theorem MonitorRow.name_of_stripped {row row' : MonitorRow} (h : row.stripped = row'.stripped) :
    row.name = row'.name := by
  have hi : row.sensorId = row'.sensorId := (congrArg MonitorRow.sensorId h :)
  have hd : Text.strip row.description = Text.strip row'.description :=
    (congrArg MonitorRow.description h :)
  simp only [name, monitorName, hi, hd]

theorem MonitorRow.unpadded_sensor {row row' : MonitorRow} {entity entity' : Option Sensor}
    (hr : row.stripped = row'.stripped)
    (he : Option.Rel (fun s s' => s.unpadded = s'.unpadded) entity entity') (item : String) :
    (row.sensor entity item).unpadded = (row'.sensor entity' item).unpadded := by
  have hs : Text.strip row.state = Text.strip row'.state := (congrArg MonitorRow.state hr :)
  have hv : Text.strip row.value = Text.strip row'.value := (congrArg MonitorRow.value hr :)
  have hm : Text.strip row.maxThreshold = Text.strip row'.maxThreshold :=
    (congrArg MonitorRow.maxThreshold hr :)
  have hu : entity.bind (·.limits.upper) = entity'.bind (·.limits.upper) :=
    he.bind_eq fun h => by rw [Sensor.limits_of_unpadded h]
  have hw : entity.bind (·.limits.lower) = entity'.bind (·.limits.lower) :=
    he.bind_eq fun h => by rw [Sensor.limits_of_unpadded h]
  have hl : (row.limits entity).toOption = (row'.limits entity').toOption := by
    simp only [toOption_limits, toOption_reading, upper, ownUpper, hv, hm, hu, hw]
  simp only [sensor_eq, Sensor.unpadded, toOption_reading, DeviceState.ofMonitorCode, hs, hv,
    hl]
  rfl

namespace Directory

theorem rel_interface? {dir dir' : Directory}
    (h : List.Forall₂ (fun row row' => row.stripped = row'.stripped) dir.interfaces dir'.interfaces)
    (description : String) :
    Option.Rel (fun row row' => row.stripped = row'.stripped)
      (dir.interface? description) (dir'.interface? description) := by
  have hn {row row' : InterfaceRow} (h : row.stripped = row'.stripped) : row.name = row'.name :=
    (congrArg InterfaceRow.name h :)
  have hv : List.Forall₂ (fun row row' => row.stripped = row'.stripped)
      dir.named.values dir'.named.values := by
    refine .of_map_eq (ByName.map_values_congr ?_)
    intro name
    rw [getElem?_named, getElem?_named]
    split
    case isTrue => rfl
    case isFalse =>
      have hr := h.filter (p := (·.name = name)) (q := (·.name = name)) fun hr => by rw [hn hr]
      exact hr.getLast?.map_eq fun hr => hr.1
  have hf := hv.filter (p := isOn description) (q := isOn description)
    fun hr => by simp only [isOn, hn hr]
  refine List.rel_foldl ?_ .none (hf.imp fun _ _ hr => hr.1)
  intro best best' hb row row' hr
  cases hb
  case none => exact .some hr
  case some other other' ho =>
    simp only [longer, hn hr, hn ho]
    split
    case isTrue => exact .some ho
    case isFalse => exact .some hr

end Directory

namespace Tables

variable {tables tables' : Tables} (h : tables.stripped = tables'.stripped)

include h

theorem entityRows_of_stripped : List.Forall₂ (fun row row' => row.stripped = row'.stripped)
    tables.entityRows tables'.entityRows :=
  EntityRow.readsFields.rel_stripped EntityRow.stripAt_fields (congrArg Tables.sensorStates h :)

theorem monitorRows_of_stripped : List.Forall₂ (fun row row' => row.stripped = row'.stripped)
    tables.monitorRows tables'.monitorRows :=
  MonitorRow.readsFields.rel_stripped MonitorRow.stripAt_fields (congrArg Tables.envMon h :)

theorem interfaceRows_of_stripped : List.Forall₂ (fun row row' => row.stripped = row'.stripped)
    tables.interfaceRows tables'.interfaceRows :=
  InterfaceRow.readsFields.rel_stripped InterfaceRow.stripAt_fields (congrArg Tables.adminStates h :)

theorem thresholdsOf_of_stripped :
    (Directory.ofTables tables).thresholdsOf = (Directory.ofTables tables').thresholdsOf := by
  have hr : List.Forall₂ (fun row row' => row.sensorId = row'.sensorId ∧
      row.threshold.toOption = row'.threshold.toOption) tables.thresholdRows tables'.thresholdRows :=
    List.rel_filterMap (fun _ _ hs => ThresholdRow.rel_read hs)
      (.of_map_eq (congrArg Tables.thresholds h :))
  funext id
  rw [Directory.thresholdsOf_ofTables, Directory.thresholdsOf_ofTables]
  exact (hr.filter fun hr => by rw [hr.1]).filterMap_eq fun hr => hr.1.2

theorem description?_of_stripped : tables.description? = tables'.description? := by
  have hd : tables.descriptions = tables'.descriptions := (congrArg Tables.descriptions h :)
  funext id
  simp only [description?, descriptionRows, hd]

theorem adminState?_of_stripped :
    (Directory.ofTables tables).adminState? = (Directory.ofTables tables').adminState? := by
  have hd : tables.descriptions = tables'.descriptions := (congrArg Tables.descriptions h :)
  have hi : List.Forall₂ (fun row row' => row.stripped = row'.stripped)
      (Directory.ofTables tables).interfaces (Directory.ofTables tables').interfaces := by
    rw [Directory.interfaces_ofTables, Directory.interfaces_ofTables]
    exact interfaceRows_of_stripped h
  refine Directory.adminState?_congr ?_ ?_
  case refine_1 => simp only [Directory.ofTables_eq, descriptionRows, hd]
  intro description
  refine (Directory.rel_interface? hi description).bind_eq ?_
  intro row row' hr
  have hc : Text.strip row.code = Text.strip row'.code := (congrArg InterfaceRow.code hr :)
  simp only [AdminState.ofCode?, hc]

theorem entity?_of_stripped (quantity : Quantity) (id : String) :
    Option.Rel (fun s s' => s.unpadded = s'.unpadded)
      (tables.entity? quantity id) (tables'.entity? quantity id) := by
  refine rel_entity? (description?_of_stripped h) (entityRows_of_stripped h) ?keys ?sensors
  case keys =>
    intro row row' hr
    have hc : Text.strip row.typeCode = Text.strip row'.typeCode := (congrArg EntityRow.typeCode hr :)
    exact ⟨(congrArg EntityRow.sensorId hr :), by simp only [Quantity.ofCode?, hc]⟩
  case sensors =>
    intro row row' name hr _
    exact Registration.unpadded_sensor hr rfl rfl (adminState?_of_stripped h)
      (thresholdsOf_of_stripped h)

theorem known?_of_stripped (id : String) :
    Option.Rel (fun s s' => s.unpadded = s'.unpadded) (tables.known? id) (tables'.known? id) :=
  (entity?_of_stripped h .celsius id).filter fun hu => by rw [Sensor.rawState_of_unpadded hu]

theorem related_of_stripped : Related (fun _ s s' => s.unpadded = s'.unpadded) tables tables' where
  description? := description?_of_stripped h
  entity? quantity id _ :=
    (entity?_of_stripped h quantity id).imp fun hu =>
      ⟨Sensor.item_of_unpadded hu, Sensor.rawState_of_unpadded hu, hu⟩
  monitorRows := by
    refine (monitorRows_of_stripped h).imp ?_
    intro row row' hr
    have hi : row.sensorId = row'.sensorId := (congrArg MonitorRow.sensorId hr :)
    have hs : Text.strip row.state = Text.strip row'.state := (congrArg MonitorRow.state hr :)
    refine ⟨hi, MonitorRow.name_of_stripped hr, ?tombstone, ?sensor⟩
    case tombstone => simp [Sensor.unpadded, Sensor.tombstone, hs]
    case sensor => exact MonitorRow.unpadded_sensor hr (hi ▸ known?_of_stripped h row.sensorId) _

end Tables

namespace Section

variable {tables tables' : Tables}

-- No check sees white space around a code or a number: the sections list the same names and offer the
-- same items, and every check gives the same verdict and leaves the same samples.
theorem blanks_never_matter (h : tables.stripped = tables'.stripped) :
    let s := ofTables tables
    let s' := ofTables tables'
    (∀ quantity, (s.sensors quantity).map (·.item) = (s'.sensors quantity).map (·.item))
      ∧ s.temperatureItems = s'.temperatureItems
      ∧ (∀ discovery, s.opticalItems discovery = s'.opticalItems discovery)
      ∧ (∀ params now item store,
          s.checkTemperature params now item store = s'.checkTemperature params now item store)
      ∧ ∀ params item, s.checkPower params item = s'.checkPower params item := by
  intro s s'
  have hr := (Tables.related_of_stripped h).get?_ofTables
  have hu (quantity : Quantity) (item : String) : (s.get? quantity item).map (·.unpadded)
      = (s'.get? quantity item).map (·.unpadded) :=
    (hr quantity item).map_eq id
  refine ⟨?names, ?temperatureItems, ?opticalItems, ?temperature, ?power⟩
  case names =>
    intro quantity
    refine ByName.map_values_congr ?_
    intro item
    exact (hr quantity item).map_eq Sensor.item_of_unpadded
  case temperatureItems =>
    refine items_congr ?_ (hu .celsius)
    intro sensor sensor' hs
    exact ⟨Sensor.isTemperatureItem_of_unpadded hs, Sensor.item_of_unpadded hs⟩
  case opticalItems =>
    intro discovery
    refine items_congr ?_ (hu .dBm)
    intro sensor sensor' hs
    exact ⟨Sensor.isOpticalItem_of_unpadded hs discovery, Sensor.item_of_unpadded hs⟩
  case temperature =>
    intro params now item store
    have hi := hr .celsius item
    rw [checkTemperature, checkTemperature]
    generalize s.get? .celsius item = sensor?, s'.get? .celsius item = sensor?' at hi
    cases hi
    case none => rfl
    case some hs => simp only [Sensor.checkTemperature_of_unpadded hs]
  case power =>
    intro params item
    have hi := hr .dBm item
    rw [checkPower, checkPower]
    generalize hg : s.get? .dBm item = sensor?, s'.get? .dBm item = sensor?' at hi
    cases hi
    case none => rfl
    case some hs =>
      have hf := filed_of_get? hg
      have he := hf.valid.entity_of_dBm hf.quantity_eq
      rw [Option.map_some, Option.map_some, Sensor.checkPower_of_unpadded hs he]

def rack : Tables where
  descriptions := [["7", "Inlet"], ["8", "Te1/1 Receive"]]
  sensorStates := [["7", "8", "9", "0", "31", "1"], ["8", "14", "9", "1", "-34", "1"]]
  thresholds := [["7.1", "20", "4", "60"], ["8.1", "0", "0", "-10"], ["8.2", "0", "0", "20"]]
  envMon := [["7", "SW#1, Sensor#1", "31", "60", "1"], ["9", "Chassis", "40", "", "3"]]
  adminStates := [["Te1/1", "1"]]

def rackPadded : Tables where
  descriptions := [["7", "Inlet"], ["8", "Te1/1 Receive"]]
  sensorStates := [["7", " 8", "9 ", "\t0", "31 ", "\u00a01"], ["8", "14 ", " 9", "1", " -34", "1\n"]]
  thresholds := [["7.1", "20 ", " 4", " 60 "], ["8.1", "0", "\u30000", "-10"], ["8.2", "0", "0", "20\t"]]
  envMon := [["7", " SW#1, Sensor#1 ", "31", " 60", "1 "], ["9", "Chassis\u2003", " 40", " ", " 3 "]]
  adminStates := [["Te1/1", " 1 "]]

theorem rack_padded :
    rack.stripped = rackPadded.stripped ∧
      (ofTables rack).temperatureItems = (ofTables rackPadded).temperatureItems ∧
      ∀ params now item store, (ofTables rack).checkTemperature params now item store
        = (ofTables rackPadded).checkTemperature params now item store := by
  have h : rack.stripped = rackPadded.stripped := by decide +kernel
  have ⟨_, hi, _, ht, _⟩ := blanks_never_matter h
  exact ⟨h, hi, ht⟩

end Section
end SensorWatch
