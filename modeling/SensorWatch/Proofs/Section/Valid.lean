import Mathlib.Data.Set.Card
import SensorWatch.Proofs.Section.Names

namespace SensorWatch

theorem DeviceState.eq_ok_of_state_ofEntityCode {code : String}
    (h : (ofEntityCode code).state = .ok) :
    Text.strip code = "1" ∧ ofEntityCode code = ⟨.ok, "OK"⟩ := by
  unfold ofEntityCode at h ⊢
  split at h
  case h_1 hc => simp [hc]
  all_goals cases h

structure Sensor.Valid (sensor : Sensor) : Prop where
  limits_eq : sensor.reading = none → sensor.limits = {}
  -- An entity sensor is never obsolete, and it has a reading only as long as the device calls it OK.
  live_of_entity : sensor.source = .entity → sensor.obsolete = false
  ok_of_entity : sensor.source = .entity → sensor.reading ≠ none →
    Text.strip sensor.rawState = "1" ∧ sensor.device = ⟨.ok, "OK"⟩
  -- Optical power is known from the entity table only.
  entity_of_dBm : sensor.quantity = .dBm → sensor.source = .entity
  -- A live sensor of the environment monitor has a reading unless it is defect.
  defect_of_envMon : sensor.source = .envMon → sensor.obsolete = false → sensor.reading = none →
    sensor.device = .defect
  -- An obsolete sensor says that it is obsolete, and nothing else.
  inert_of_obsolete : sensor.obsolete = true →
    sensor.quantity = .celsius ∧ sensor.source = .envMon ∧ sensor.device = .obsolete
      ∧ sensor.reading = none ∧ sensor.limits = {} ∧ sensor.adminState = none

structure Sensor.Filed (quantity : Quantity) (item : String) (sensor : Sensor) : Prop where
  celsius_or_dBm : quantity = .celsius ∨ quantity = .dBm
  quantity_eq : sensor.quantity = quantity
  item_eq : sensor.item = item
  valid : sensor.Valid

theorem Sensor.valid_tombstone (item rawState : String) : (tombstone item rawState).Valid := by
  constructor <;> simp [tombstone]

theorem MonitorRow.valid_sensor (row : MonitorRow) (entity : Option Sensor) (item : String) :
    (row.sensor entity item).Valid := by
  rw [sensor_eq, limits]
  cases row.reading
  case error => constructor <;> simp [Except.toOption]
  case ok =>
    cases row.upper entity
    all_goals constructor <;> simp [Except.toOption, Except.map]

theorem Registration.valid_sensor (dir : Directory) (r : Registration) : (r.sensor dir).Valid := by
  rw [sensor_eq]
  cases hm : r.measured? dir
  case none => constructor <;> simp
  case some m =>
    rw [measured?, Option.ite_none_right_eq_some] at hm
    obtain ⟨hc, hd⟩ := DeviceState.eq_ok_of_state_ofEntityCode hm.1
    constructor <;> simp [device, hc, hd]

namespace Tables

variable {tables : Tables} {quantity : Quantity} {id item : String} {sensor : Sensor}

theorem FirstBearer.filed (hq : quantity = .celsius ∨ quantity = .dBm)
    (h : tables.FirstBearer quantity item sensor) : sensor.Filed quantity item := by
  have ⟨id, _, he⟩ := h
  have ⟨_, _, hs⟩ := exists_entityRow he
  exact ⟨hq, quantity_of_entity? he, h.item_eq, hs ▸ Registration.valid_sensor ..⟩

theorem Holds.filed (h : tables.Holds item sensor) : sensor.Filed .celsius item := by
  cases h
  case tombstone row _ => exact ⟨.inl rfl, rfl, rfl, Sensor.valid_tombstone ..⟩
  case monitor row _ _ =>
    exact ⟨.inl rfl, by rw [MonitorRow.sensor_eq], by rw [MonitorRow.sensor_eq],
      row.valid_sensor ..⟩
  case entity hb => exact hb.filed (.inl rfl)

end Tables

namespace Section

-- What a section promises to those who look its sensors up, list them or count them.
structure Valid (s : Section) : Prop where
  filed {quantity item sensor} :
    s.get? quantity item = some sensor → sensor.Filed quantity item
  sorted (quantity : Quantity) : ((s.sensors quantity).map (·.item)).Pairwise (· < ·)
  mem_sensors_iff {quantity sensor} :
    sensor ∈ s.sensors quantity ↔ s.get? quantity sensor.item = some sensor
  ncard_eq_size :
    { name : Quantity × String | (s.get? name.1 name.2).isSome }.ncard = s.size

theorem ncard_get? (s : Section) :
    { name : Quantity × String | (s.get? name.1 name.2).isSome }.ncard = s.size := by
  have hn : { name : Quantity × String | (s.get? name.1 name.2).isSome } = s.names := by
    ext ⟨quantity, item⟩
    simp [mem_names_iff, Option.isSome_iff_exists]
  rw [hn, Set.ncard_coe_finset, card_names]

variable {tables : Tables} {quantity : Quantity} {item : String} {sensor : Sensor}

theorem filed_of_get? (h : (ofTables tables).get? quantity item = some sensor) :
    sensor.Filed quantity item := by
  rcases origin_of_get? h with ⟨hq, hh⟩ | ⟨hq, hb⟩
  · exact hq ▸ hh.filed
  · exact hq ▸ hb.filed (.inr rfl)

theorem pairwise_sensors (tables : Tables) (quantity : Quantity) :
    (((ofTables tables).sensors quantity).map (·.item)).Pairwise (· < ·) := by
  refine ByName.pairwise_lt_values ?_
  intro item sensor h
  exact (filed_of_get? h).item_eq

theorem mem_sensors_iff :
    sensor ∈ (ofTables tables).sensors quantity ↔
      (ofTables tables).get? quantity sensor.item = some sensor := by
  rw [sensors, ByName.mem_values_iff]
  constructor
  · intro ⟨item, h⟩
    exact (filed_of_get? h).item_eq ▸ h
  · intro h
    exact ⟨sensor.item, h⟩

theorem valid_ofTables (tables : Tables) : (ofTables tables).Valid :=
  ⟨filed_of_get?, pairwise_sensors tables, mem_sensors_iff, ncard_get? _⟩

end Section
end SensorWatch
