import SensorWatch.Proofs.Json.Faithful
import SensorWatch.Proofs.Threshold
import SensorWatch.Wire.Params
import SensorWatch.Wire.Verdict

namespace SensorWatch

open Json (Decoder Faithful Record RoundTrips)
open Json.Record

theorem State.faithful : Faithful State.ofJson State.toJson fun _ => [] :=
  Decoder.faithful_oneOf fun state => by cases state <;> rfl

theorem AdminState.faithful : Faithful AdminState.ofJson AdminState.toJson fun _ => [] :=
  Decoder.faithful_oneOf fun state => by cases state <;> rfl

theorem Handling.faithful : Faithful Handling.ofJson Handling.toJson fun _ => [] :=
  Decoder.faithful_oneOf fun handling => by cases handling <;> rfl

theorem TemperatureUnit.faithful :
    Faithful TemperatureUnit.ofJson TemperatureUnit.toJson fun _ => [] :=
  Decoder.faithful_oneOf fun unit => by cases unit <;> rfl

theorem AdminSet.ofList_toList (set : AdminSet) : ofList set.toList = set := by
  obtain ⟨up, down, testing⟩ := set
  cases up <;> cases down <;> cases testing <;> rfl

theorem AdminSet.faithful : Faithful AdminSet.ofJson AdminSet.toJson fun _ => [] where
  ofJson_toJson set _ := by
    have h := (Decoder.faithful_listOf AdminState.faithful).ofJson_toJson set.toList (by simp)
    rw [ofJson, toJson, h]
    exact congrArg Except.ok set.ofList_toList
  isFinite := by simp

namespace Levels

theorem toJson_eq {levels : Levels} (h : ∀ x ∈ levels.numbers, x.isFinite) :
    levels.toJson = .array [.real levels.warn, .real levels.crit] := by
  have ⟨hw, hc⟩ : levels.warn.isFinite ∧ levels.crit.isFinite := by simpa [numbers] using h
  rw [toJson, Json.ofReal, Json.ofReal, if_pos hw, if_pos hc]

theorem faithful : Faithful ofJson toJson numbers where
  ofJson_toJson levels h := by
    rw [toJson_eq h]
    rfl
  isFinite j levels hj h := by
    unfold ofJson at h
    split at h
    case h_2 warn items =>
      obtain ⟨w, hw, h⟩ := Except.bind_eq_ok_iff.mp h
      split at h
      case h_1 => cases h
      case h_2 crit more _ =>
        obtain ⟨c, hc, h⟩ := Except.bind_eq_ok_iff.mp h
        split at h
        case isTrue =>
          cases h
          have hf := Json.itemsFit_iff.mp hj
          have hw := Decoder.faithful_real.isFinite warn w (hf warn (by simp)) hw
          have hc := Decoder.faithful_real.isFinite crit c (hf crit (by simp)) hc
          simpa [numbers] using And.intro (hw w (.head _)) (hc c (.head _))
        case isFalse => cases h
    all_goals cases h

theorem faithful_nullable :
    Faithful (Decoder.nullable ofJson) (Json.ofOption toJson) (·.toList.flatMap numbers) :=
  Decoder.faithful_nullable faithful fun _ _ => nofun

end Levels

namespace LevelsSetting

def numbers : LevelsSetting → List Binary64
  | device | off => []
  | fixed levels => levels.numbers

theorem faithful : Faithful ofJson toJson numbers where
  ofJson_toJson setting h := by
    cases setting
    case device => rfl
    case off => rfl
    case fixed levels =>
      rw [toJson, Levels.toJson_eq h]
      rfl
  isFinite j setting hj h := by
    unfold ofJson at h
    split at h
    case isTrue => cases h
    case isFalse =>
      split at h
      case h_1 | h_2 =>
        cases h
        simp [numbers]
      case h_3 =>
        split at h
        case h_1 levels hl =>
          cases h
          exact Levels.faithful.isFinite j levels hj hl
        case h_2 => cases h

end LevelsSetting

theorem Limits.forall_mem_numbers {limits : Limits} {P : Binary64 → Prop} :
    (∀ x ∈ limits.numbers, P x) ↔
      (∀ x ∈ limits.upper.toList.flatMap Levels.numbers, P x)
        ∧ ∀ x ∈ limits.lower.toList.flatMap Levels.numbers, P x := by
  rw [numbers, List.flatMap_append, List.forall_mem_append]

namespace TrendParams

def numbers (params : TrendParams) : List Binary64 :=
  (Limits.mk params.upper params.lower).numbers

theorem faithful : Faithful ofJson toJson numbers := by
  refine Record.faithful (by decide) (fun _ => rfl) (fun _ => rfl) ?gives ?ensures
  case gives =>
    intro params h
    have ⟨hu, hl⟩ := Limits.forall_mem_numbers.mp h
    have hp := Decoder.faithful_uint32.ofJson_toJson params.periodMinutes (by simp)
    have hu := Levels.faithful_nullable.ofJson_toJson params.upper hu
    have hl := Levels.faithful_nullable.ofJson_toJson params.lower hl
    exact ((gives_required rfl hp).map _)
      |>.seq (gives_optional rfl hu)
      |>.seq (gives_optional rfl hl)
  case ensures =>
    refine .seq (.seq (.map (ensures_required Decoder.faithful_uint32) ?_)
      (ensures_optional Levels.faithful_nullable nofun))
      (ensures_optional Levels.faithful_nullable nofun)
    intro _ _ upper hu lower hl
    exact Limits.forall_mem_numbers.mpr ⟨hu, hl⟩

theorem faithful_nullable :
    Faithful (Decoder.nullable ofJson) (Json.ofOption toJson) (·.toList.flatMap numbers) :=
  Decoder.faithful_nullable faithful fun _ _ => nofun

end TrendParams

namespace TemperatureParams

def numbers (params : TemperatureParams) : List Binary64 :=
  params.limits.numbers ++ params.trend.toList.flatMap TrendParams.numbers

theorem faithful : Faithful ofJson toJson numbers := by
  refine Record.faithful (by decide) (fun _ => rfl) (fun _ => rfl) ?gives ?ensures
  case gives =>
    intro params h
    have ⟨hm, ht⟩ := List.forall_mem_append.mp h
    have ⟨hu, hl⟩ := Limits.forall_mem_numbers.mp hm
    have hu := Levels.faithful_nullable.ofJson_toJson params.limits.upper hu
    have hl := Levels.faithful_nullable.ofJson_toJson params.limits.lower hl
    have hd := Handling.faithful.ofJson_toJson params.handling (by simp)
    have hc := TemperatureUnit.faithful.ofJson_toJson params.unit (by simp)
    have ht := TrendParams.faithful_nullable.ofJson_toJson params.trend ht
    exact ((gives_optional rfl hu).map _)
      |>.seq (gives_optional rfl hl)
      |>.seq (gives_optional rfl hd)
      |>.seq (gives_optional rfl hc)
      |>.seq (gives_optional rfl ht)
  case ensures =>
    refine .seq (.seq (.seq (.seq (.map (ensures_optional Levels.faithful_nullable nofun) ?_)
      (ensures_optional Levels.faithful_nullable nofun))
      (ensures_optional Handling.faithful nofun))
      (ensures_optional TemperatureUnit.faithful nofun))
      (ensures_optional TrendParams.faithful_nullable nofun)
    intro upper hu lower hl _ _ _ _ trend ht
    exact List.forall_mem_append.mpr ⟨Limits.forall_mem_numbers.mpr ⟨hu, hl⟩, ht⟩

end TemperatureParams

namespace OpticalParams

def numbers (params : OpticalParams) : List Binary64 :=
  params.upper.numbers ++ params.lower.numbers

theorem faithful : Faithful ofJson toJson numbers := by
  refine Record.faithful (by decide) (fun _ => rfl) (fun _ => rfl) ?gives ?ensures
  case gives =>
    intro params h
    have ⟨hu, hl⟩ := List.forall_mem_append.mp h
    have hu := LevelsSetting.faithful.ofJson_toJson params.upper hu
    have hl := LevelsSetting.faithful.ofJson_toJson params.lower hl
    exact ((gives_optional rfl hu).map _) |>.seq (gives_optional rfl hl)
  case ensures =>
    refine .seq (.map (ensures_optional LevelsSetting.faithful nofun) ?_)
      (ensures_optional LevelsSetting.faithful nofun)
    intro upper hu lower hl
    exact List.forall_mem_append.mpr ⟨hu, hl⟩

end OpticalParams

theorem OpticalDiscovery.faithful :
    Faithful OpticalDiscovery.ofJson OpticalDiscovery.toJson fun _ => [] := by
  refine Record.faithful (by decide) (fun _ => rfl) (fun _ => rfl) ?gives ?ensures
  case gives =>
    intro discovery _
    have hs := AdminSet.faithful.ofJson_toJson discovery.states (by simp)
    exact (gives_required rfl hs).map _
  case ensures => exact (ensures_required AdminSet.faithful).map fun _ _ => nofun

namespace Metric

def numbers (metric : Metric) : List Binary64 :=
  metric.value :: [metric.warn, metric.crit, metric.min, metric.max].flatMap Option.toList

theorem forall_mem_numbers {metric : Metric} {P : Binary64 → Prop} :
    (∀ x ∈ metric.numbers, P x) ↔
      (∀ x ∈ [metric.value], P x) ∧ (∀ x ∈ metric.warn.toList, P x)
        ∧ (∀ x ∈ metric.crit.toList, P x) ∧ (∀ x ∈ metric.min.toList, P x)
        ∧ ∀ x ∈ metric.max.toList, P x := by
  simp [numbers, or_imp, forall_and]

theorem faithful : Faithful ofJson toJson numbers := by
  refine Record.faithful (by decide) (fun _ => rfl) (fun _ => rfl) ?gives ?ensures
  case gives =>
    intro metric h
    have ⟨hv, hw, hc, hl, hu⟩ := forall_mem_numbers.mp h
    have hn := Decoder.faithful_text.ofJson_toJson metric.name (by simp)
    have hv := Decoder.faithful_real.ofJson_toJson metric.value hv
    have ho := Decoder.faithful_nullable_real.ofJson_toJson
    exact ((gives_required rfl hn).map _)
      |>.seq (gives_required rfl hv)
      |>.seq (gives_nullable rfl (ho metric.warn hw))
      |>.seq (gives_nullable rfl (ho metric.crit hc))
      |>.seq (gives_nullable rfl (ho metric.min hl))
      |>.seq (gives_nullable rfl (ho metric.max hu))
  case ensures =>
    refine .seq (.seq (.seq (.seq (.seq (.map (ensures_required Decoder.faithful_text) ?_)
      (ensures_required Decoder.faithful_real))
      (ensures_nullable Decoder.faithful_nullable_real nofun))
      (ensures_nullable Decoder.faithful_nullable_real nofun))
      (ensures_nullable Decoder.faithful_nullable_real nofun))
      (ensures_nullable Decoder.faithful_nullable_real nofun)
    intro _ _ value hv warn hw crit hc least hl greatest hu
    exact forall_mem_numbers.mpr ⟨hv, hw, hc, hl, hu⟩

end Metric

namespace Verdict

def numbers (verdict : Verdict) : List Binary64 :=
  verdict.metrics.flatMap Metric.numbers

theorem faithful : Faithful ofJson toJson numbers := by
  refine Record.faithful (by decide) (fun _ => rfl) (fun _ => rfl) ?gives ?ensures
  case gives =>
    intro verdict h
    have hs := State.faithful.ofJson_toJson verdict.state (by simp)
    have ht := Decoder.faithful_text.ofJson_toJson verdict.summary (by simp)
    have hm := (Decoder.faithful_listOf Metric.faithful).ofJson_toJson verdict.metrics h
    exact ((gives_required rfl hs).map _)
      |>.seq (gives_required rfl ht)
      |>.seq (gives_required rfl hm)
  case ensures =>
    refine .seq (.seq (.map (ensures_required State.faithful) ?_)
      (ensures_required Decoder.faithful_text))
      (ensures_required (Decoder.faithful_listOf Metric.faithful))
    intro _ _ _ _ metrics hm
    exact hm

end Verdict

-- What an operator sets, and what a check says, is still the same after it was written and read.
theorem params_verdicts_roundTrip :
    RoundTrips TemperatureParams.ofJson TemperatureParams.toJson TemperatureParams.numbers
      ∧ RoundTrips TrendParams.ofJson TrendParams.toJson TrendParams.numbers
      ∧ RoundTrips OpticalParams.ofJson OpticalParams.toJson OpticalParams.numbers
      ∧ RoundTrips LevelsSetting.ofJson LevelsSetting.toJson LevelsSetting.numbers
      ∧ RoundTrips Levels.ofJson Levels.toJson Levels.numbers
      ∧ RoundTrips OpticalDiscovery.ofJson OpticalDiscovery.toJson (fun _ => [])
      ∧ RoundTrips Metric.ofJson Metric.toJson Metric.numbers
      ∧ RoundTrips Verdict.ofJson Verdict.toJson Verdict.numbers :=
  ⟨TemperatureParams.faithful.roundTrips, TrendParams.faithful.roundTrips,
    OpticalParams.faithful.roundTrips, LevelsSetting.faithful.roundTrips,
    Levels.faithful.roundTrips, OpticalDiscovery.faithful.roundTrips,
    Metric.faithful.roundTrips, Verdict.faithful.roundTrips⟩

def inletParams : TemperatureParams where
  limits := { upper := some ⟨.ofInt 35, .ofInt 40⟩ }
  handling := .devdefault
  unit := .kelvin
  trend := some { periodMinutes := 5, lower := some ⟨.ofDecimal false 15 (-1), .ofInt 3⟩ }

theorem inletParams_roundTrip :
    (∀ x ∈ inletParams.numbers, x.isFinite)
      ∧ TemperatureParams.ofJson inletParams.toJson = .ok inletParams
      ∧ LevelsSetting.ofJson (.array [.integer 35, .integer 40])
          = .ok (.fixed ⟨.ofInt 35, .ofInt 40⟩)
      ∧ LevelsSetting.ofJson (LevelsSetting.toJson (.fixed ⟨.ofInt 35, .ofInt 40⟩))
          = .ok (.fixed ⟨.ofInt 35, .ofInt 40⟩) := by
  have ⟨ht, _, _, hl, _⟩ := params_verdicts_roundTrip
  have hf : ∀ x ∈ inletParams.numbers, x.isFinite := by decide +kernel
  exact ⟨hf, ht.written inletParams hf, rfl,
    hl.read (.array [.integer 35, .integer 40]) _ (by decide) rfl⟩

end SensorWatch
