import SensorWatch.Proofs.Check.Temperature
import SensorWatch.Proofs.Section.Merge
import SensorWatch.Proofs.State

namespace SensorWatch

-- Limits and trend only ever add to the state of a live sensor.
theorem Sensor.device_le_verdictSince {sensor : Sensor} (h : sensor.obsolete = false)
    (params : TemperatureParams) (now : Instant) (earlier : Option Sample) :
    sensor.device.state ≤ (sensor.verdictSince params now earlier).state := by
  cases hr : sensor.reading
  case none =>
    simp only [verdictSince, measured, h, hr]
    exact le_rfl
  case some value =>
    simp only [verdictSince, measured, h, hr, TemperatureReading.verdict, State.worst_eq_max]
    exact le_max_of_le_left (le_max_right ..)

namespace MonitorRow

variable (row : MonitorRow) (entity : Option Sensor) (item : String)

def reported : State :=
  (DeviceState.ofMonitorCode row.state).state

theorem sensor_device :
    (row.sensor entity item).device
      = if (row.fault? entity).isSome then .defect else .ofMonitorCode row.state := by
  rw [sensor_eq, fault?]
  simp only [RowFault.isSome_of?]

variable (params : TemperatureParams) (now : Instant) (earlier : Option Sample)

theorem reported_le_verdictSince (h : row.fault? entity = none ∨ row.reported ≠ .crit) :
    row.reported ≤ ((row.sensor entity item).verdictSince params now earlier).state := by
  refine le_trans ?_ <| Sensor.device_le_verdictSince (row.sensor_obsolete entity item) ..
  rw [sensor_device]
  split
  case isTrue hf =>
    have hc : row.reported ≠ .crit := h.resolve_left (Option.isSome_iff_ne_none.mp hf)
    cases hr : row.reported
    case crit => exact absurd hr hc
    all_goals decide
  case isFalse => exact le_rfl

theorem unknown_le_verdictSince (h : (row.fault? entity).isSome) :
    .unknown ≤ ((row.sensor entity item).verdictSince params now earlier).state := by
  have hd := Sensor.device_le_verdictSince (row.sensor_obsolete entity item) params now earlier
  rwa [sensor_device, if_pos h] at hd

end MonitorRow

namespace Section

variable {tables : Tables} {item : String} {row : MonitorRow}

-- The check of a sensor that stands for a row of the environment monitor does not improve on what
-- the device reports. If the numbers of the row can not be read, then a critical state may come out
-- as an unknown one, but as nothing better.
theorem reported_le_checkTemperature (hb : tables.buried item = [])
    (hm : (tables.monitored item).head? = some row) (params : TemperatureParams) (now : Instant)
    (store : SampleStore) :
    ∃ verdict, ((ofTables tables).checkTemperature params now item store).1 = some verdict ∧
      (row.fault? (tables.known? row.sensorId) = none ∨ row.reported ≠ .crit →
        row.reported ≤ verdict.state) ∧
      ((row.fault? (tables.known? row.sensorId)).isSome → .unknown ≤ verdict.state) := by
  let sensor := row.sensor (tables.known? row.sensorId) item
  let verdict := sensor.verdictSince params now (store.get? (trendKey item))
  have hg : (ofTables tables).get? .celsius item = some sensor :=
    (get?_celsius_eq_some_iff ..).mpr (.monitor hb hm)
  refine ⟨verdict, ?verdict, ?reported, ?unknown⟩
  case verdict  => rw [checkTemperature_eq, hg, Option.map_some]
  case reported => exact row.reported_le_verdictSince _ item params now _
  case unknown  => exact row.unknown_le_verdictSince _ item params now _

def overheated : Tables where
  envMon := [["5", "Chassis", "hot", "68", "3"], ["6", "Outlet", "36", "68", "3"]]

theorem overheated_outlet_crit :
    overheated.buried "Outlet" = [] ∧
      (overheated.monitored "Outlet").head? = some ⟨"6", "Outlet", "36", "68", "3"⟩ ∧
      ∃ verdict,
        ((ofTables overheated).checkTemperature {} ⟨0⟩ "Outlet" {}).1 = some verdict ∧
          .crit ≤ verdict.state := by
  have hb : overheated.buried "Outlet" = [] := by decide +kernel
  have hm : (overheated.monitored "Outlet").head? = some ⟨"6", "Outlet", "36", "68", "3"⟩ := by
    decide +kernel
  have ⟨verdict, hv, hr, _⟩ := reported_le_checkTemperature hb hm {} ⟨0⟩ {}
  exact ⟨hb, hm, verdict, hv, hr (.inl (by decide +kernel))⟩

-- Without a reading the first sensor counts as defect, and that is no more than unknown.
theorem not_forall_reported_le :
    ¬∀ (tables : Tables) (item : String) (row : MonitorRow) (params : TemperatureParams)
        (now : Instant) (store : SampleStore),
      tables.buried item = [] → (tables.monitored item).head? = some row →
      ∃ verdict, ((ofTables tables).checkTemperature params now item store).1 = some verdict ∧
        row.reported ≤ verdict.state := by
  intro escalates
  have ⟨verdict, hv, hr⟩ := escalates overheated "Chassis" ⟨"5", "Chassis", "hot", "68", "3"⟩
    {} ⟨0⟩ {} (by decide +kernel) (by decide +kernel)
  have hu : ((ofTables overheated).checkTemperature {} ⟨0⟩ "Chassis" {}).1.map (·.state)
      = some .unknown := by decide +kernel
  rw [hv, Option.map_some, Option.some.injEq] at hu
  rw [hu] at hr
  exact absurd hr (by decide +kernel)

end Section
end SensorWatch
