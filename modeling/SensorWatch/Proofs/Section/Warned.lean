import SensorWatch.Proofs.Check.DeviceState
import SensorWatch.Proofs.Section.Merge
import SensorWatch.Proofs.Section.Pruned

namespace SensorWatch

namespace DeviceState

variable (code : String)

theorem unknownCode_ne_defect : unknownCode code ≠ defect := by
  intro h
  have hc := congrArg (fun device => device.text.toList.head?) h
  simp [unknownCode, defect] at hc

theorem ofEntityCode_ne_defect : ofEntityCode code ≠ defect := by
  unfold ofEntityCode
  split
  case h_4 => exact unknownCode_ne_defect _
  all_goals decide

theorem ofMonitorCode_ne_defect : ofMonitorCode code ≠ defect := by
  unfold ofMonitorCode
  split
  case h_7 => exact unknownCode_ne_defect _
  all_goals decide

end DeviceState

theorem Registration.fault?_ne_none {dir : Directory} {r : Registration}
    (h : (r.sensor dir).device = .defect) : r.fault? dir ≠ none := by
  rw [sensor_eq] at h
  dsimp only at h
  split at h
  case isFalse => exact absurd h (DeviceState.ofEntityCode_ne_defect r.row.state)
  case isTrue hm =>
    obtain ⟨hd, hm⟩ := hm
    rw [measured?, if_pos hd] at hm
    rw [fault?, measurement?, if_pos hd, Option.bind_some, ← Option.isSome_iff_ne_none]
    exact RowFault.isSome_of?.mpr hm

theorem MonitorRow.fault?_ne_none {row : MonitorRow} {entity : Option Sensor} {item : String}
    (h : (row.sensor entity item).device = .defect) : row.fault? entity ≠ none := by
  rw [sensor_device] at h
  split at h
  case isTrue hf => exact Option.isSome_iff_ne_none.mp hf
  case isFalse => exact absurd h (DeviceState.ofMonitorCode_ne_defect row.state)

theorem mem_log_register {dir : Directory} {entities : ByQuantity} {row : EntityRow}
    {w : Warning} :
    w ∈ (register dir entities row).log ↔
      ∃ r fault, Registration.ofRow? dir row = some r
        ∧ r.row.sensorId ∉ entities.sensors r.quantity
        ∧ r.fault? dir = some fault ∧ w = .entitySensor r.row.sensorId r.name fault := by
  cases h : Registration.ofRow? dir row
  case none => simp [register, h]
  case some r =>
    obtain rfl := (Registration.ofRow?_eq_some_iff.mp h).1
    simp only [register, h]
    by_cases hm : r.row.sensorId ∈ entities.sensors r.quantity
    case pos => simp [hm]
    case neg => cases hf : r.fault? dir <;> simp [Registration.log_build, hm, hf]

theorem Counterparts.mem_log_absorb {cs : Counterparts} {row : MonitorRow}
    {merged : ByName Sensor} {w : Warning} :
    w ∈ (cs.absorb row merged).log ↔
      cs.item row ∉ cs.bury row merged
        ∧ ∃ fault, row.fault? (cs.entity? row) = some fault
          ∧ w = .monitorSensor row.sensorId (cs.item row) fault := by
  simp only [absorb]
  by_cases hm : cs.item row ∈ cs.bury row merged
  case pos => simp [hm]
  case neg =>
    cases hf : row.fault? (cs.entity? row) <;> simp [MonitorRow.log_build, hm, hf]

namespace Warning

def item? : Warning → Option String
  | skippedRow .. => none
  | skippedThreshold .. => none
  | entitySensor _ item _ => some item
  | monitorSensor _ item _ => some item

-- The reader of the log finds this name in brackets, in front of what is wrong.
theorem message_of_item? {w : Warning} {item : String} (h : w.item? = some item) :
    ∃ (lead : String) (fault : RowFault),
      w.message = lead ++ " (" ++ item ++ "): " ++ fault.message := by
  cases w
  case entitySensor sensorId item' fault =>
    cases h
    exact ⟨"Sensor " ++ sensorId, fault, rfl⟩
  case monitorSensor sensorId item' fault =>
    cases h
    exact ⟨"Legacy sensor " ++ sensorId, fault, rfl⟩
  all_goals cases h

end Warning

namespace Tables

variable (tables : Tables)

def misfitWarnings (table : Table) : List Warning :=
  (tables.misfits table).map (.misfit table)

def numberlessWarnings : List Warning :=
  (tables.thresholds.filter lacksNumber).map .numberless

def entityWarnings : List Warning :=
  (registerAll (Directory.ofTables tables) tables.entityRows).log

def monitorWarnings : List Warning :=
  (tables.counterparts.absorbAll tables.monitorRows).log

theorem warnings_eq : tables.warnings
    = tables.misfitWarnings .descriptions
      ++ tables.misfitWarnings .adminStates
      ++ tables.misfitWarnings .thresholds ++ tables.numberlessWarnings
      ++ tables.misfitWarnings .sensorStates ++ tables.entityWarnings
      ++ tables.misfitWarnings .envMon ++ tables.monitorWarnings := by
  simp only [warnings, Section.parse, Directory.parse, Logged.log_bind, Logged.log_pure,
    value_readRows, DescriptionRow.readsWidth.log_readRows, InterfaceRow.readsWidth.log_readRows,
    ThresholdRow.readsWidth.log_readRows, EntityRow.readsWidth.log_readRows,
    MonitorRow.readsWidth.log_readRows, ThresholdRow.log_collect_readable, List.append_assoc,
    List.append_nil]
  rfl

theorem isSome_item?_of_mem {w : Warning} (h : w ∈ tables.entityWarnings ++ tables.monitorWarnings) :
    w.item?.isSome := by
  rcases List.mem_append.mp h with h | h
  case inl =>
    have ⟨_, _, _, _, h⟩ := (Logged.mem_log_foldlM ..).mp h
    obtain ⟨r, fault, _, _, _, rfl⟩ := mem_log_register.mp h
    rfl
  case inr =>
    have ⟨_, _, _, _, h⟩ := (Logged.mem_log_foldlM ..).mp h
    obtain ⟨_, fault, _, rfl⟩ := Counterparts.mem_log_absorb.mp h
    rfl

variable {tables : Tables} {quantity : Quantity} {item : String} {sensor : Sensor}

theorem filter_eq_nil_of_warnings_eq_nil (h : tables.warnings = []) :
    (∀ table, tables.misfits table = []) ∧ tables.thresholds.filter lacksNumber = [] := by
  rw [warnings_eq] at h
  simp only [List.append_eq_nil_iff, misfitWarnings, numberlessWarnings, List.map_eq_nil_iff] at h
  refine ⟨?misfits, by simp only [h]⟩
  case misfits =>
    intro table
    cases table <;> simp only [h]

theorem buries_eq_false (hb : tables.buried item = []) {row : MonitorRow}
    (hr : row ∈ tables.monitorRows) : tables.counterparts.buries row item = false := by
  rw [Counterparts.buries, counterparts_isSuperseded, ← Bool.not_eq_true]
  exact List.filter_eq_nil_iff.mp hb row hr

theorem getElem?_bury_absorbAll (hb : tables.buried item = []) {before after : List MonitorRow}
    {row : MonitorRow} (hr : tables.monitorRows = before ++ row :: after)
    (hn : ∀ row' ∈ before, tables.monitorItem row' ≠ item) :
    (tables.counterparts.bury row (tables.counterparts.absorbAll before).value)[item]? = none := by
  have hl : before.filter (tables.counterparts.buries · item) = [] := by
    simp only [List.filter_eq_nil_iff, Bool.not_eq_true]
    intro row' h
    exact buries_eq_false hb (hr ▸ List.mem_append_left _ h)
  have hf : before.find? (tables.counterparts.item · = item) = none := by
    simpa [counterparts_item] using hn
  have hs : tables.counterparts.buries row item = false :=
    buries_eq_false hb (hr ▸ List.mem_append_right _ List.mem_cons_self)
  rw [Counterparts.getElem?_bury, Counterparts.getElem?_absorbAll, hl, hf, hs]
  rfl

theorem mem_monitorWarnings {row : MonitorRow} {fault : RowFault} (hb : tables.buried item = [])
    (hm : (tables.monitored item).head? = some row)
    (hf : row.fault? (tables.known? row.sensorId) = some fault) :
    .monitorSensor row.sensorId item fault ∈ tables.monitorWarnings := by
  rw [monitored, List.head?_filter] at hm
  obtain ⟨hi, before, after, hr, hn⟩ := List.find?_eq_some_iff_append.mp hm
  have hi : tables.counterparts.item row = item :=
    (tables.counterparts_item row).trans (of_decide_eq_true hi)
  have hfree := getElem?_bury_absorbAll hb hr (by simpa using hn)
  rw [monitorWarnings, hr]
  refine (Logged.mem_log_foldlM ..).mpr ⟨before, row, after, rfl, ?_⟩
  rw [Counterparts.mem_log_absorb, hi, counterparts_entity?,
    Std.ExtTreeMap.mem_iff_isSome_getElem?, Option.not_isSome_iff_eq_none]
  exact ⟨hfree, fault, hf, rfl⟩

theorem mem_entityWarnings (hq : quantity.isChecked) {id : String} {r : Registration}
    {fault : RowFault}
    (hr : tables.registration? quantity id = some r)
    (hf : r.fault? (Directory.ofTables tables) = some fault) :
    .entitySensor r.row.sensorId r.name fault ∈ tables.entityWarnings := by
  rw [← Registration.find?_filterMap_ofRow? tables hq, List.find?_filterMap,
    Option.bind_eq_some_iff] at hr
  obtain ⟨row, hrow, hr⟩ := hr
  obtain ⟨hp, before, after, hs, hb⟩ := List.find?_eq_some_iff_append.mp hrow
  rw [entityWarnings, hs]
  refine (Logged.mem_log_foldlM ..).mpr ⟨before, row, after, rfl, ?_⟩
  refine mem_log_register.mpr ⟨r, fault, hr, ?_, hf, rfl⟩
  -- It is the first row of its sensor.
  obtain ⟨hrq, hri⟩ : r.quantity = quantity ∧ r.row.sensorId = id := by
    simpa [hr, Registration.isOf] using hp
  rw [← registerAll, Std.ExtTreeMap.mem_iff_isSome_getElem?, Option.not_isSome_iff_eq_none,
    getElem?_registerAll, Option.map_eq_none_iff, List.find?_eq_none, hrq, hri]
  intro r' hr' hi
  obtain ⟨row', hm, hr'⟩ := List.mem_filterMap.mp hr'
  have := hb row' hm
  simp [hr', hi] at this

theorem FirstBearer.exists_warning (hq : quantity.isChecked)
    (h : tables.FirstBearer quantity item sensor) (hd : sensor.device = .defect) :
    ∃ w ∈ tables.entityWarnings, w.item? = some item := by
  have ⟨id, _, he⟩ := h
  have ⟨r, hr, hs⟩ := Option.map_eq_some_iff.mp he
  have ⟨fault, hf⟩ := Option.ne_none_iff_exists'.mp (Registration.fault?_ne_none (hs ▸ hd))
  have hi : r.name = item := by rw [← h.item_eq, ← hs, Registration.sensor_item]
  exact ⟨_, mem_entityWarnings hq hr hf, congrArg some hi⟩

theorem Holds.exists_warning (h : tables.Holds item sensor) (hd : sensor.device = .defect) :
    ∃ w ∈ tables.entityWarnings ++ tables.monitorWarnings, w.item? = some item := by
  cases h
  case tombstone => exact absurd hd (by decide : DeviceState.obsolete ≠ .defect)
  case monitor row hb hm =>
    have ⟨fault, hf⟩ := Option.ne_none_iff_exists'.mp (MonitorRow.fault?_ne_none hd)
    exact ⟨_, List.mem_append_right _ (mem_monitorWarnings hb hm hf), rfl⟩
  case entity hb =>
    have ⟨w, hw, hi⟩ := hb.exists_warning rfl hd
    exact ⟨w, List.mem_append_left _ hw, hi⟩

end Tables

namespace Section

variable {tables : Tables} {quantity : Quantity} {item : String} {sensor : Sensor}

theorem exists_warning (h : (ofTables tables).get? quantity item = some sensor)
    (hd : sensor.device = .defect) : ∃ w ∈ tables.warnings, w.item? = some item := by
  have ⟨w, hw, hi⟩ :
      ∃ w ∈ tables.entityWarnings ++ tables.monitorWarnings, w.item? = some item := by
    rcases origin_of_get? h with ⟨_, hh⟩ | ⟨_, hb⟩
    case inl => exact hh.exists_warning hd
    case inr =>
      have ⟨w, hw, hi⟩ := hb.exists_warning rfl hd
      exact ⟨w, List.mem_append_left _ hw, hi⟩
  refine ⟨w, ?_, hi⟩
  rw [Tables.warnings_eq]
  simp only [List.mem_append] at hw ⊢
  exact hw.elim (fun he => .inl (.inl (.inr he))) .inr

-- Nothing is lost in silence. Rows that can not be used make no difference; each of them is logged,
-- once and in its place, and everything else in the log names a sensor. So is every sensor that has
-- lost its numbers; and where nothing is logged nothing was lost.
theorem losses_are_logged (tables : Tables) :
    ofTables tables.pruned = ofTables tables
      ∧ (∃ entityWarnings monitorWarnings,
          tables.warnings
            = tables.misfitWarnings .descriptions
              ++ tables.misfitWarnings .adminStates
              ++ tables.misfitWarnings .thresholds ++ tables.numberlessWarnings
              ++ tables.misfitWarnings .sensorStates ++ entityWarnings
              ++ tables.misfitWarnings .envMon ++ monitorWarnings
            ∧ ∀ w ∈ entityWarnings ++ monitorWarnings, w.item?.isSome)
      ∧ (∀ quantity item sensor, (ofTables tables).get? quantity item = some sensor →
          sensor.device = .defect → ∃ w ∈ tables.warnings, w.item? = some item
            ∧ ∃ (lead : String) (fault : RowFault),
              w.message = lead ++ " (" ++ item ++ "): " ++ fault.message)
      ∧ (tables.warnings = [] →
          (∀ table, ∀ texts ∈ tables.rows table, table.fits texts)
            ∧ (∀ texts ∈ tables.thresholds, lacksNumber texts = false)
            ∧ ∀ quantity item sensor, (ofTables tables).get? quantity item = some sensor →
              sensor.device ≠ .defect) := by
  refine ⟨ofTables_pruned tables, ⟨tables.entityWarnings, tables.monitorWarnings,
    tables.warnings_eq, fun _ => tables.isSome_item?_of_mem⟩, ?defect, ?silent⟩
  case defect =>
    intro quantity item sensor hs hd
    have ⟨w, hw, hi⟩ := exists_warning hs hd
    exact ⟨w, hw, hi, Warning.message_of_item? hi⟩
  case silent =>
    intro h
    have ⟨hm, hn⟩ := Tables.filter_eq_nil_of_warnings_eq_nil h
    refine ⟨fun table => ?fits, by simpa [List.filter_eq_nil_iff] using hn, ?sound⟩
    case fits => simpa [Tables.misfits, List.filter_eq_nil_iff] using hm table
    case sound =>
      intro quantity item sensor hs hd
      have ⟨w, hw, _⟩ := exists_warning hs hd
      simp [h] at hw

def faultyRack : Tables where
  descriptions := [["7", "Inlet"], ["8"]]
  sensorStates := [["7", "8", "9", "0", "hot", "1"]]
  thresholds := [["7.1", "10", "4", "high"], ["7.2", "20"]]
  envMon := [["5", "Outlet", "36", "max", "1"]]

def faultlessRack : Tables where
  descriptions := [["7", "Inlet"]]
  sensorStates := [["7", "8", "9", "0", "31", "1"]]
  thresholds := [["7.1", "10", "4", "45"], ["7.2", "20", "4", "55"]]
  envMon := [["5", "Outlet", "36", "68", "1"]]

theorem racks_logged :
    (∃ w ∈ faultyRack.warnings, w.item? = some "Inlet")
      ∧ (∃ w ∈ faultyRack.warnings, w.item? = some "Outlet")
      ∧ faultlessRack.warnings = []
      ∧ ∃ inlet, (ofTables faultlessRack).get? .celsius "Inlet" = some inlet
        ∧ inlet.device ≠ .defect := by
  have hi : ((ofTables faultyRack).get? .celsius "Inlet").any (·.device = .defect) := by
    decide +kernel
  have ho : ((ofTables faultyRack).get? .celsius "Outlet").any (·.device = .defect) := by
    decide +kernel
  have hw : faultlessRack.warnings = [] := by decide +kernel
  have hl : ((ofTables faultlessRack).get? .celsius "Inlet").isSome := by decide +kernel
  have ⟨_, _, hn, _⟩ := losses_are_logged faultyRack
  have ⟨_, _, _, hs⟩ := losses_are_logged faultlessRack
  have ⟨inlet, hi, hid⟩ := (Option.any_eq_true ..).mp hi
  have ⟨outlet, ho, hod⟩ := (Option.any_eq_true ..).mp ho
  have ⟨live, hl⟩ := Option.isSome_iff_exists.mp hl
  have ⟨wi, hwi, hni, _⟩ := hn _ _ _ hi (of_decide_eq_true hid)
  have ⟨wo, hwo, hno, _⟩ := hn _ _ _ ho (of_decide_eq_true hod)
  exact ⟨⟨wi, hwi, hni⟩, ⟨wo, hwo, hno⟩, hw, live, hl, (hs hw).2.2 _ _ _ hl⟩

end Section
end SensorWatch
