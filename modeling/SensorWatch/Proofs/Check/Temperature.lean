import SensorWatch.Check.Temperature
import SensorWatch.Proofs.Sample.Store

namespace SensorWatch

def trendKey (item : String) : String :=
  sampleName item ++ ".trend"

theorem trendKey_injective : Function.Injective trendKey := by
  intro item item' h
  exact (String.append_right_inj _).mp ((String.append_left_inj _).mp h)

namespace SampleStore

variable (store : SampleStore) (key k : String) (sample? : Option Sample)

def record : SampleStore :=
  (sample?.map (store.set key)).getD store

theorem samples_record :
    (store.record key sample?).samples
      = (sample?.map (store.samples.insert key)).getD store.samples := by
  cases sample? <;> rfl

theorem get?_record :
    (store.record key sample?).get? k = (if key = k then sample? else none).or (store.get? k) := by
  cases sample?
  case none => simp [record]
  case some sample => exact store.get?_set

theorem mem_written_record :
    k ∈ (store.record key sample?).written ↔ (key = k ∧ sample?.isSome) ∨ k ∈ store.written := by
  cases sample?
  case none => simp [record]
  case some sample => simp [record, mem_written_set]

theorem Extends.record {store : SampleStore} {base : ByName Sample} (h : store.Extends base) :
    (store.record key sample?).Extends base := by
  cases sample?
  case none => exact h
  case some sample => exact h.set

end SampleStore

namespace TemperatureReading

variable (r : TemperatureReading) (params : TemperatureParams) (now : Instant)

def trendSince (earlier : Option Sample) : Option Trend :=
  params.trend.bind fun trendParams => earlier.bind (trendParams.trend? · ⟨now, r.value⟩)

theorem trend_eq (key : String) (store : SampleStore) :
    r.trend params key now store
      = (r.trendSince params now (store.get? key),
          store.record key (params.trend.map fun _ => ⟨now, r.value⟩)) := by
  rw [trend, trendSince]
  cases params.trend <;> rfl

end TemperatureReading

namespace Sensor

variable (sensor : Sensor) (params : TemperatureParams) (now : Instant)

def verdictSince (earlier : Option Sample) : Verdict :=
  match sensor.measured with
  | .error verdict => verdict
  | .ok value =>
    let r : TemperatureReading := ⟨value, sensor.limits, sensor.device⟩
    r.verdict params (r.trendSince params now earlier)

-- The sample that the check of a sensor leaves behind. Only a live sensor with a reading leaves
-- one, and only if a trend is asked for.
def sample? : Option Sample :=
  if sensor.obsolete || params.trend.isNone then none else sensor.reading.map (⟨now, ·⟩)

theorem checkTemperature_eq (name : String) (store : SampleStore) :
    sensor.checkTemperature params name now store
      = (sensor.verdictSince params now (store.get? (name ++ ".trend")),
          store.record (name ++ ".trend") (sensor.sample? params now)) := by
  rw [checkTemperature, verdictSince, sample?, measured]
  by_cases ho : sensor.obsolete
  case pos => simp [ho, SampleStore.record]
  case neg =>
    cases hr : sensor.reading
    case none => simp [ho, SampleStore.record]
    case some value =>
      simp only [ho, TemperatureReading.check, TemperatureReading.trend_eq]
      cases params.trend <;> rfl

end Sensor

namespace Section

variable (s : Section) (params : TemperatureParams) (now : Instant) (item : String)
  {store store' : SampleStore}

def sample? : Option Sample :=
  (s.get? .celsius item).bind (·.sample? params now)

theorem checkTemperature_eq (store : SampleStore) :
    s.checkTemperature params now item store
      = ((s.get? .celsius item).map (·.verdictSince params now (store.get? (trendKey item))),
          store.record (trendKey item) (s.sample? params now item)) := by
  rw [checkTemperature, sample?]
  cases s.get? .celsius item
  case none        => rfl
  case some sensor => simp [sensor.checkTemperature_eq, trendKey]

variable (items : List String)

theorem extends_checkTemperatures {base : ByName Sample} (h : store.Extends base) :
    (s.checkTemperatures params now items store).2.Extends base := by
  induction items generalizing store
  case nil => exact h
  case cons item items ih =>
    rw [checkTemperatures, checkTemperature_eq]
    exact ih (h.record _ _)

theorem checkTemperatures_congr (h : store.samples = store'.samples) :
    (s.checkTemperatures params now items store).1 = (s.checkTemperatures params now items store').1
      ∧ (s.checkTemperatures params now items store).2.samples
        = (s.checkTemperatures params now items store').2.samples := by
  induction items generalizing store store'
  case nil => exact ⟨rfl, h⟩
  case cons item items ih =>
    have hg : store.get? (trendKey item) = store'.get? (trendKey item) := by
      rw [SampleStore.get?, h, SampleStore.get?]
    have hs : (s.checkTemperature params now item store).2.samples
        = (s.checkTemperature params now item store').2.samples := by
      simp only [checkTemperature_eq, SampleStore.samples_record, h]
    have hv : (s.checkTemperature params now item store).1
        = (s.checkTemperature params now item store').1 := by
      simp only [checkTemperature_eq, hg]
    simp only [checkTemperatures, ih hs, hv, and_self]

theorem checkTemperatures_of_trend_none (h : params.trend = none) (store : SampleStore) :
    s.checkTemperatures params now items store
      = ((s.checkTemperatures params now items {}).1, store) := by
  have hc (item : String) (store : SampleStore) : s.checkTemperature params now item store
      = ((s.checkTemperature params now item {}).1, store) := by
    simp only [checkTemperature_eq, sample?, Sensor.sample?, Sensor.verdictSince,
      TemperatureReading.trendSince, h]
    simp [SampleStore.record]
  induction items generalizing store
  case nil => rfl
  case cons item items ih =>
    have he : (s.checkTemperature params now item {}).2 = {} := congrArg Prod.snd (hc item {})
    simp only [checkTemperatures, hc item store, he, ih store]

end Section
end SensorWatch
