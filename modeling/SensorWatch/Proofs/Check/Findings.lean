import SensorWatch.Check.Optical
import SensorWatch.Proofs.Check.Comparison
import SensorWatch.Proofs.Check.Temperature
import SensorWatch.Proofs.Levels

namespace SensorWatch

def State.remark (state : State) (text : String) : String :=
  if state = .ok then "" else text

theorem Breach.text_ne_empty (render : Binary64 → String) (breach : Breach) :
    breach.text render ≠ "" := by
  intro h
  unfold text at h
  exact absurd (String.append_eq_empty_iff.mp h).2 (by decide)

theorem Limits.text_eq_empty_iff (limits : Limits) (render : Binary64 → String)
    (value : Binary64) : limits.text render value = "" ↔ limits.state value = .ok := by
  rw [← breach?_eq_none_iff, text]
  cases limits.breach? value
  case none        => simp
  case some breach => simp [breach.text_ne_empty]

theorem Limits.text_eq_remark (limits : Limits) (render : Binary64 → String) (value : Binary64) :
    limits.text render value = (limits.state value).remark (limits.text render value) := by
  rw [State.remark]
  split
  case isTrue h  => exact (limits.text_eq_empty_iff render value).mpr h
  case isFalse h => rfl

-- What is found out about a reading apart from the state of its device, and how it is put.
structure Findings where
  levels : State
  trend : State := .ok
  summary : String

namespace Sensor

variable (sensor : Sensor)

structure Judged (findings : Binary64 → Findings) (verdict : Verdict) : Prop where
  obsolete : sensor.obsolete = true → verdict.state = .unknown
  unread : sensor.obsolete = false → sensor.reading = none → verdict.state = sensor.device.state
  worst {value} : sensor.obsolete = false → sensor.reading = some value →
    verdict.state
      = max sensor.device.state (max (findings value).levels (findings value).trend)
  -- All has to be well for a verdict to be OK, and it is no better than anything that was found.
  ok_iff : verdict.state = .ok ↔
    sensor.obsolete = false ∧ sensor.device.state = .ok ∧
      ∀ value ∈ sensor.reading, (findings value).levels = .ok ∧ (findings value).trend = .ok
  device_le : sensor.obsolete = false → sensor.device.state ≤ verdict.state
  findings_le {value} : sensor.obsolete = false → sensor.reading = some value →
    (findings value).levels ≤ verdict.state ∧ (findings value).trend ≤ verdict.state
  summary {value} : sensor.obsolete = false → sensor.reading = some value →
    verdict.summary = (findings value).summary

def verdictBy (check : Binary64 → Verdict) : Verdict :=
  match sensor.measured with
  | .error verdict => verdict
  | .ok value => check value

theorem verdictBy_cases (check : Binary64 → Verdict) :
    (sensor.obsolete = true ∧ sensor.verdictBy check = .obsolete)
      ∨ (sensor.obsolete = false ∧ sensor.reading = none ∧ sensor.verdictBy check
          = { state := sensor.device.state, summary := sensor.device.status })
      ∨ ∃ value, sensor.obsolete = false ∧ sensor.reading = some value
          ∧ sensor.verdictBy check = check value := by
  rw [verdictBy, measured]
  cases sensor.obsolete
  case true => simp
  case false => cases sensor.reading <;> simp

theorem judged_verdictBy {findings : Binary64 → Findings} {check : Binary64 → Verdict}
    (hs : ∀ value, (check value).state
      = max sensor.device.state (max (findings value).levels (findings value).trend))
    (ht : ∀ value, (check value).summary = (findings value).summary) :
    sensor.Judged findings (sensor.verdictBy check) := by
  rcases sensor.verdictBy_cases check with ⟨ho, hv⟩ | ⟨ho, hr, hv⟩ | ⟨value, ho, hr, hv⟩ <;> rw [hv]
  · constructor <;> simp [ho, Verdict.obsolete]
  · constructor <;> simp [ho, hr]
  · constructor <;> simp [ho, hr, hs, ht, State.max_eq_ok_iff]

def temperatureFindings (params : TemperatureParams) (now : Instant) (earlier : Option Sample)
    (value : Binary64) : Findings :=
  let limits := params.handling.pick params.limits sensor.limits value
  let trend := params.trend.bind fun trendParams => earlier.bind (trendParams.trend? · ⟨now, value⟩)
  { levels := limits.state value
    trend := (trend.map (·.state)).getD .ok
    summary := params.unit.render value
      ++ (limits.state value).remark (limits.text params.unit.render value)
      ++ sensor.device.state.remark (", State on device: " ++ sensor.device.text)
      ++ (trend.bind fun trend =>
          params.trend.map fun trendParams =>
            trend.remark params.unit trendParams.periodMinutes).getD "" }

def powerFindings (params : OpticalParams) (value : Binary64) : Findings :=
  let limits := params.limits sensor.limits
  { levels := limits.state value
    summary := "Status: " ++ sensor.device.text ++ ", Signal power: " ++ renderPower value
      ++ (limits.state value).remark (limits.text renderPower value) }

theorem judged_verdictSince (params : TemperatureParams) (now : Instant)
    (earlier : Option Sample) :
    sensor.Judged (sensor.temperatureFindings params now earlier)
      (sensor.verdictSince params now earlier) := by
  refine sensor.judged_verdictBy ?state ?summary
  case state =>
    intro value
    simp only [TemperatureReading.verdict, TemperatureReading.comparison_eq, State.worst_eq_max]
    rw [max_comm _ sensor.device.state, max_assoc]
    rfl
  case summary =>
    intro value
    simp only [TemperatureReading.verdict, TemperatureReading.comparison_eq, temperatureFindings,
      ← Limits.text_eq_remark]
    congr 1
    rw [TemperatureReading.trendSince]
    cases params.trend
    case none => rfl
    case some trendParams =>
      simp only [Option.bind_some]
      cases earlier.bind (trendParams.trend? · ⟨now, value⟩) <;> rfl

theorem judged_checkPower (params : OpticalParams) :
    sensor.Judged (sensor.powerFindings params) (sensor.checkPower params) := by
  refine sensor.judged_verdictBy ?state ?summary
  case state =>
    intro value
    simp only [State.worst_eq_max]
    exact congrArg _ (max_eq_left (State.ok_le _)).symm
  case summary =>
    intro value
    simp only [powerFindings, ← Limits.text_eq_remark]
    rfl

end Sensor

namespace Section

-- The verdict on any item of a section is judged by what was found out about its sensor, and a
-- summary speaks of levels exactly if their state is not OK.
theorem verdicts_judged_by_findings (s : Section) :
    (∀ item sensor, s.get? .celsius item = some sensor →
      ∀ (params : TemperatureParams) (now : Instant) (store : SampleStore),
        ∃ verdict, (s.checkTemperature params now item store).1 = some verdict
          ∧ sensor.Judged (sensor.temperatureFindings params now (store.get? (trendKey item)))
              verdict)
      ∧ (∀ item sensor, s.get? .dBm item = some sensor → ∀ params : OpticalParams,
          ∃ verdict, s.checkPower params item = some verdict
            ∧ sensor.Judged (sensor.powerFindings params) verdict)
      ∧ ∀ (limits : Limits) (render : Binary64 → String) (value : Binary64),
          limits.text render value = "" ↔ limits.state value = .ok := by
  refine ⟨?temperature, ?power, Limits.text_eq_empty_iff⟩
  case temperature =>
    intro item sensor h params now store
    refine ⟨_, ?_, sensor.judged_verdictSince params now (store.get? (trendKey item))⟩
    rw [checkTemperature_eq, h, Option.map_some]
  case power =>
    intro item sensor h params
    refine ⟨_, ?_, sensor.judged_checkPower params⟩
    rw [checkPower, h, Option.map_some]

def warmRack : Tables where
  descriptions := [["21", "Te1/1 Receive Power"]]
  sensorStates := [["21", "14", "9", "1", "-34", "1"]]
  envMon := [["1", "Inlet", "70", "60", "2"]]

def warmInlet : Sensor where
  item := "Inlet"
  quantity := .celsius
  description := "Inlet"
  source := .envMon
  rawState := "2"
  reading := some (.ofInt 70)
  device := ⟨.warn, "warning"⟩
  limits := { upper := some ⟨.ofInt 60, .ofInt 60⟩ }

theorem warmRack_judged :
    let trend : TrendParams := { periodMinutes := 5, upper := some ⟨.ofInt 10, .ofInt 20⟩ }
    let store := SampleStore.ofList [(trendKey "Inlet", ⟨⟨0⟩, .ofInt 60⟩)]
    let params : OpticalParams := { lower := .fixed ⟨.ofInt (-3), .ofInt (-9)⟩ }
    (ofTables warmRack).get? .celsius "Inlet" = some warmInlet
      ∧ (∃ verdict, ((ofTables warmRack).checkTemperature { trend := some trend } ⟨600000000000⟩
            "Inlet" store).1 = some verdict
          ∧ verdict.state = .crit
          ∧ verdict.summary = "70.0 °C (warn/crit at 60.0 °C/60.0 °C), State on device: warning"
              ++ ", rate: +5.0 °C per 5 min")
      ∧ ∃ receiver verdict,
          (ofTables warmRack).get? .dBm "Te1/1 Receive Power" = some receiver
            ∧ (ofTables warmRack).checkPower params "Te1/1 Receive Power" = some verdict
            ∧ receiver.device.state ≤ verdict.state := by
  intro trend store params
  have ⟨ht, hp, _⟩ := verdicts_judged_by_findings (ofTables warmRack)
  have hi : (ofTables warmRack).get? .celsius "Inlet" = some warmInlet := by decide +kernel
  have ⟨verdict, hv, hj⟩ := ht _ _ hi { trend := some trend } ⟨600000000000⟩ store
  have hr : ((ofTables warmRack).get? .dBm "Te1/1 Receive Power").isSome := by decide +kernel
  have ⟨receiver, hr⟩ := Option.isSome_iff_exists.mp hr
  have ⟨power, hp, hpj⟩ := hp _ _ hr params
  refine ⟨hi, ⟨verdict, hv, (hj.worst rfl rfl).trans ?state, (hj.summary rfl rfl).trans ?summary⟩,
    receiver, power, hr, hp, hpj.device_le ?live⟩
  case state   => decide +kernel
  case summary => decide +kernel
  case live =>
    have hl : ((ofTables warmRack).get? .dBm "Te1/1 Receive Power").all (!·.obsolete) := by
      decide +kernel
    simpa [hr] using hl

end Section
end SensorWatch
