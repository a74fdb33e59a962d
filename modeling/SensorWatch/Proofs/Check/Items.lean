import Mathlib.Data.List.Perm.Basic
import SensorWatch.Proofs.Check.Trend

namespace SensorWatch

theorem SampleStore.record_comm {key key' : String} (h : key ≠ key') (store : SampleStore)
    (sample? sample'? : Option Sample) :
    (store.record key sample?).record key' sample'?
      = (store.record key' sample'?).record key sample? := by
  apply SampleStore.ext
  case samples =>
    apply Std.ExtTreeMap.ext_getElem?
    intro k
    change SampleStore.get? _ k = SampleStore.get? _ k
    simp only [get?_record]
    by_cases hk : key = k
    case pos =>
      subst hk
      simp [h.symm]
    case neg => simp [hk]
  case written =>
    apply Std.ExtTreeSet.ext_mem
    intro k
    simp only [mem_written_record]
    exact or_left_comm

namespace Section

variable (s : Section) (params : TemperatureParams) (now : Instant) {items items' : List String}

theorem checkTemperatures_fst_cons (item : String) (items : List String) (store : SampleStore) :
    (s.checkTemperatures params now (item :: items) store).1
      = ((s.checkTemperature params now item store).1.map (item, ·)).toList
        ++ (s.checkTemperatures params now items
            (s.checkTemperature params now item store).2).1 :=
  rfl

theorem checkTemperatures_snd (items : List String) (store : SampleStore) :
    (s.checkTemperatures params now items store).2
      = items.foldl (fun store item => store.record (trendKey item) (s.sample? params now item))
          store := by
  induction items generalizing store
  case nil => rfl
  case cons item items ih => rw [checkTemperatures, ih, checkTemperature_eq, List.foldl_cons]

theorem checkTemperatures_snd_perm (h : items.Perm items') (store : SampleStore) :
    (s.checkTemperatures params now items store).2
      = (s.checkTemperatures params now items' store).2 := by
  rw [checkTemperatures_snd, checkTemperatures_snd]
  refine h.foldl_eq' ?_ store
  intro item _ item' _ store
  by_cases hi : item = item'
  case pos => rw [hi]
  case neg => exact store.record_comm (trendKey_injective.ne hi) _ _

theorem checkTemperature_record_of_ne {item item' : String} (h : item ≠ item')
    (store : SampleStore) (sample? : Option Sample) :
    (s.checkTemperature params now item' (store.record (trendKey item) sample?)).1
      = (s.checkTemperature params now item' store).1 := by
  rw [checkTemperature_eq, checkTemperature_eq, SampleStore.get?_record,
    if_neg (trendKey_injective.ne h), Option.none_or]

theorem checkTemperatures_fst_of_nodup (h : items.Nodup) (store : SampleStore) :
    (s.checkTemperatures params now items store).1
      = items.filterMap fun item =>
          (s.checkTemperature params now item store).1.map (item, ·) := by
  induction items generalizing store
  case nil => rfl
  case cons item items ih =>
    rw [List.nodup_cons] at h
    have hr : (s.checkTemperatures params now items
          (s.checkTemperature params now item store).2).1
        = items.filterMap fun item =>
            (s.checkTemperature params now item store).1.map (item, ·) := by
      rw [ih h.2]
      refine List.filterMap_congr fun item' hi => ?_
      have hne : item ≠ item' := fun he => h.1 (he ▸ hi)
      rw [checkTemperature_eq _ _ _ item, checkTemperature_record_of_ne s params now hne]
    rw [checkTemperatures_fst_cons, hr, List.filterMap_cons]
    cases (s.checkTemperature params now item store).1 <;> rfl

end Section

def TemperatureParams.untrended (params : TemperatureParams) : TemperatureParams :=
  { params with trend := none }

theorem TrendParams.trend?_eq_none {trendParams : TrendParams} {earlier later : Sample}
    (h : earlier.isBefore later.time = false) : trendParams.trend? earlier later = none := by
  rw [trend?, if_neg]
  rwa [Instant.millisSince_pos_iff, ← decide_eq_false_iff_not]

theorem Sensor.verdictSince_untrended (sensor : Sensor) (params : TemperatureParams) {now : Instant}
    {earlier : Option Sample} (h : ∀ sample ∈ earlier, sample.isBefore now = false)
    (earlier' : Option Sample) :
    sensor.verdictSince params now earlier = sensor.verdictSince params.untrended now earlier' := by
  rw [verdictSince, verdictSince]
  cases sensor.measured
  case error => rfl
  case ok value =>
    let r : TemperatureReading := ⟨value, sensor.limits, sensor.device⟩
    have ht : r.trendSince params now earlier = none := by
      rw [TemperatureReading.trendSince, Option.bind_eq_none_iff]
      intro trendParams _
      rw [Option.bind_eq_none_iff]
      intro sample hs
      exact TrendParams.trend?_eq_none (h sample hs)
    exact congrArg (r.verdict params) ht

namespace Section

variable (s : Section) (params : TemperatureParams) {now : Instant} {items : List String}

theorem isBefore_of_sample? {item : String} {sample : Sample}
    (h : s.sample? params now item = some sample) : sample.isBefore now = false := by
  have ⟨_, _, hs⟩ := Option.bind_eq_some_iff.mp h
  rw [Sample.isBefore, (Sensor.measured_of_sample? hs).2, decide_eq_false_iff_not]
  omega

-- Where no sample is old enough for a rate, it makes no difference that trends are asked for: an
-- item that repeats only finds its sample of this very time.
theorem checkTemperatures_untrended {store : SampleStore}
    (h : ∀ item ∈ items, ∀ sample ∈ store.get? (trendKey item), sample.isBefore now = false)
    (store' : SampleStore) :
    (s.checkTemperatures params now items store).1
      = (s.checkTemperatures params.untrended now items store').1 := by
  induction items generalizing store store'
  case nil => rfl
  case cons item items ih =>
    have hv : (s.checkTemperature params now item store).1
        = (s.checkTemperature params.untrended now item store').1 := by
      rw [checkTemperature_eq, checkTemperature_eq]
      refine congrArg (Option.map · _) ?_
      funext sensor
      exact sensor.verdictSince_untrended params (h item (.head _)) _
    rw [checkTemperatures_fst_cons, checkTemperatures_fst_cons, hv]
    refine congrArg (_ ++ ·) (ih ?_ _)
    intro item' hi sample hs
    rw [checkTemperature_eq, SampleStore.get?_record, Option.mem_def, Option.or_eq_some_iff] at hs
    rcases hs with hs | ⟨_, hs⟩
    case inl =>
      have ⟨_, hs⟩ := Option.ite_none_right_eq_some.mp hs
      exact s.isBefore_of_sample? params hs
    case inr => exact h item' (.tail _ hi) sample hs

end Section
end SensorWatch
