import SensorWatch.Proofs.Check.Findings
import SensorWatch.Proofs.Check.Trend

namespace SensorWatch

structure Metric.Shows (metric : Metric) (value : Binary64) (state : State) : Prop where
  value_eq : metric.value = value
  min_eq : metric.min = none
  max_eq : metric.max = none
  isSome_warn : metric.warn.isSome = metric.crit.isSome
  crit {level} : metric.crit = some level → level ≤ metric.value → state = .crit
  warn {level} : metric.warn = some level → level ≤ metric.value → .warn ≤ state

theorem Metric.shows_ofLevels {limits : Limits} {value : Binary64} {state : State}
    (h : limits.state value ≤ state) (name : String) :
    (ofLevels name value limits.upper).Shows value state := by
  have hs : limits.upperState value ≤ state := (limits.upperState_le_state value).trans h
  cases hl : limits.upper <;> rw [Limits.upperState, hl] at hs
  case none => constructor <;> simp [ofLevels]
  case some levels =>
    constructor <;> simp only [ofLevels, Option.map_some, Option.isSome_some]
    case crit =>
      rintro _ ⟨rfl⟩ hc
      exact State.crit_le_iff.mp (Levels.upperState_of_crit_le hc ▸ hs)
    case warn =>
      rintro _ ⟨rfl⟩ hw
      exact (Levels.warn_le_upperState hw).trans hs

namespace Sensor

variable {sensor : Sensor}

structure Publishes (sensor : Sensor) (verdict : Verdict) : Prop where
  nothing : sensor.obsolete ∨ sensor.reading = none → verdict.metrics = []
  reading {value} : sensor.obsolete = false → sensor.reading = some value →
    ∃ metric, verdict.metrics = [metric] ∧ metric.Shows value verdict.state

theorem publishes_verdictBy {check : Binary64 → Verdict} (name : String)
    (limits : Binary64 → Limits)
    (hm : ∀ value, (check value).metrics = [.ofLevels name value (limits value).upper])
    (hs : ∀ value, (limits value).state value ≤ (check value).state) :
    sensor.Publishes (sensor.verdictBy check) := by
  rcases sensor.verdictBy_cases check with ⟨ho, hv⟩ | ⟨ho, hr, hv⟩ | ⟨value, ho, hr, hv⟩ <;> rw [hv]
  · constructor <;> simp [ho, Verdict.obsolete]
  · constructor <;> simp [ho, hr]
  · have hw := Metric.shows_ofLevels (hs value) name
    constructor <;> simp [ho, hr, hm, hw]

theorem publishes_verdictSince (params : TemperatureParams) (now : Instant)
    (earlier : Option Sample) : sensor.Publishes (sensor.verdictSince params now earlier) := by
  refine publishes_verdictBy "temp"
    (fun value => TemperatureReading.decisive ⟨value, sensor.limits, sensor.device⟩ params)
    (fun _ => ?metrics) (fun _ => ?state)
  all_goals simp only [TemperatureReading.verdict, TemperatureReading.comparison_eq]
  case metrics => rfl
  case state =>
    rw [State.worst_eq_max, State.worst_eq_max]
    exact le_max_of_le_left (le_max_left ..)

theorem publishes_checkPower (params : OpticalParams) :
    sensor.Publishes (sensor.checkPower params) := by
  refine publishes_verdictBy _ (fun _ => params.limits sensor.limits) (fun _ => rfl) (fun _ => ?_)
  simp only [State.worst_eq_max]
  exact le_max_right ..

end Sensor

namespace Section

-- The sensor of an item decides what is published about it: one metric if it is live and has a
-- reading, and otherwise none. Where the metric shows a level that its value meets, the state is as
-- bad as that level says, or worse.
theorem metrics_agree_with_state (s : Section) (item : String) :
    (∀ (params : TemperatureParams) (now : Instant) (store : SampleStore),
        Option.Rel Sensor.Publishes (s.get? .celsius item)
          (s.checkTemperature params now item store).1)
      ∧ ∀ params : OpticalParams,
          Option.Rel Sensor.Publishes (s.get? .dBm item) (s.checkPower params item) := by
  constructor
  case left =>
    intro params now store
    rw [checkTemperature_eq]
    cases s.get? .celsius item
    case none        => exact .none
    case some sensor => exact .some (sensor.publishes_verdictSince params now _)
  case right =>
    intro params
    rw [checkPower]
    cases s.get? .dBm item
    case none        => exact .none
    case some sensor => exact .some (sensor.publishes_checkPower params)

theorem warmRack_metric :
    let params : TemperatureParams :=
      { limits := { upper := some ⟨.ofInt 65, .ofInt 80⟩ }, handling := .worst }
    ∃ verdict metric,
      ((ofTables warmRack).checkTemperature params ⟨0⟩ "Inlet" {}).1 = some verdict
        ∧ verdict.metrics = [metric] ∧ metric.value = .ofInt 70
        ∧ metric.crit = some (.ofInt 60) ∧ verdict.state = .crit := by
  intro params
  have hr := (metrics_agree_with_state (ofTables warmRack) "Inlet").1 params ⟨0⟩ {}
  have hi : (ofTables warmRack).get? .celsius "Inlet" = some warmInlet := by decide +kernel
  have hc : ((ofTables warmRack).checkTemperature params ⟨0⟩ "Inlet" {}).1.map
      (·.metrics.map (·.crit)) = some [some (.ofInt 60)] := by decide +kernel
  rw [hi] at hr
  generalize ((ofTables warmRack).checkTemperature params ⟨0⟩ "Inlet" {}).1 = result at hr hc
  cases hr
  case some verdict h =>
    have ⟨metric, hm, hs⟩ := h.reading rfl rfl
    have hl : metric.crit = some (.ofInt 60) := by simpa [hm] using hc
    have hv : .ofInt 60 ≤ metric.value := by
      rw [hs.value_eq]
      decide +kernel
    exact ⟨verdict, metric, rfl, hm, hs.value_eq, hl, hs.crit hl hv⟩

end Section

def Verdict.unworded (verdict : Verdict) : Verdict :=
  { verdict with summary := "" }

def TemperatureParams.inUnit (params : TemperatureParams) (unit : TemperatureUnit) :
    TemperatureParams :=
  { params with unit := unit }

namespace TemperatureReading

variable (r : TemperatureReading) (params : TemperatureParams) (unit : TemperatureUnit)

theorem decisive_inUnit : r.decisive (params.inUnit unit) = r.decisive params :=
  rfl

theorem trendSince_inUnit (now : Instant) (earlier : Option Sample) :
    r.trendSince (params.inUnit unit) now earlier = r.trendSince params now earlier :=
  rfl

theorem unworded_verdict_inUnit (trend : Option Trend) :
    (r.verdict (params.inUnit unit) trend).unworded = (r.verdict params trend).unworded := by
  simp only [Verdict.unworded, verdict, comparison_eq, decisive_inUnit, Limits.comparison]

end TemperatureReading

theorem Sensor.unworded_verdictSince_inUnit (sensor : Sensor) (params : TemperatureParams)
    (unit : TemperatureUnit) (now : Instant) (earlier : Option Sample) :
    (sensor.verdictSince (params.inUnit unit) now earlier).unworded
      = (sensor.verdictSince params now earlier).unworded := by
  rw [verdictSince, verdictSince]
  cases sensor.measured
  case error => rfl
  case ok value =>
    simp only [TemperatureReading.trendSince_inUnit, TemperatureReading.unworded_verdict_inUnit]

namespace Section

variable (s : Section) (params : TemperatureParams) (unit : TemperatureUnit) (now : Instant)
  (item : String) (store : SampleStore)

theorem unworded_checkTemperature_inUnit :
    (s.checkTemperature (params.inUnit unit) now item store).1.map (·.unworded)
      = (s.checkTemperature params now item store).1.map (·.unworded) := by
  rw [checkTemperature_eq, checkTemperature_eq, Option.map_map, Option.map_map]
  refine congrArg (Option.map · _) (funext fun sensor => ?_)
  exact sensor.unworded_verdictSince_inUnit params unit now _

theorem store_checkTemperature_inUnit :
    (s.checkTemperature (params.inUnit unit) now item store).2
      = (s.checkTemperature params now item store).2 := by
  have hs : s.sample? (params.inUnit unit) now item = s.sample? params now item := rfl
  simp only [checkTemperature_eq, hs]

end Section

namespace TemperatureCheck

def SameButUnit (c c' : TemperatureCheck) : Prop :=
  c = { c' with params := c'.params.inUnit c.params.unit }

theorem SameButUnit.run_snd {c c' : TemperatureCheck} (h : c.SameButUnit c') (store : SampleStore) :
    (c.run store).2 = (c'.run store).2 := by
  rw [h]
  exact Section.store_checkTemperature_inUnit ..

theorem runAll_of_sameButUnit {checks checks' : List TemperatureCheck}
    (h : List.Forall₂ SameButUnit checks checks') (store : SampleStore) :
    runAll checks store = runAll checks' store := by
  induction h generalizing store
  case nil => rfl
  case cons c c' checks checks' hc _ ih =>
    rw [runAll, List.foldl_cons, hc.run_snd store]
    exact ih _

-- The unit of an operator shows in summaries and nowhere else. The verdict on an item has the same
-- state and the same metrics in all units, and leaves the very same store, with the same samples and
-- the same updates; and so does a run of checks, however their units may change.
theorem unit_only_rewords :
    (∀ (s : Section) (params : TemperatureParams) (unit : TemperatureUnit) (now : Instant)
        (item : String) (store : SampleStore),
        let result := s.checkTemperature params now item store
        let result' := s.checkTemperature { params with unit := unit } now item store
        result'.1.map (·.unworded) = result.1.map (·.unworded) ∧ result'.2 = result.2)
      ∧ ∀ checks checks' : List TemperatureCheck, List.Forall₂ SameButUnit checks checks' →
          ∀ store, runAll checks store = runAll checks' store := by
  constructor
  case left =>
    intro s params unit now item store
    exact ⟨s.unworded_checkTemperature_inUnit params unit now item store,
      s.store_checkTemperature_inUnit params unit now item store⟩
  case right =>
    intro checks checks' h store
    exact runAll_of_sameButUnit h store

theorem inlet_inUnits :
    let inUnit (unit : TemperatureUnit) (c : TemperatureCheck) : TemperatureCheck :=
      { c with params := c.params.inUnit unit }
    let checks := [inUnit .fahrenheit (inlet "31" 0), inUnit .kelvin (inlet "33" 120)]
    List.Forall₂ SameButUnit checks [inlet "31" 0, inlet "33" 120]
      ∧ runAll checks {} = runAll [inlet "31" 0, inlet "33" 120] {} := by
  intro inUnit checks
  have h : List.Forall₂ SameButUnit checks [inlet "31" 0, inlet "33" 120] :=
    .cons rfl (.cons rfl .nil)
  exact ⟨h, unit_only_rewords.2 _ _ h {}⟩

end TemperatureCheck
end SensorWatch
