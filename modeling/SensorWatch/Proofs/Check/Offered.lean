import SensorWatch.Proofs.Check.Findings
import SensorWatch.Proofs.Section.Valid

namespace SensorWatch

theorem DeviceState.status_ne_obsolete (device : DeviceState) :
    device.status ≠ Verdict.obsolete.summary := by
  intro h
  have hc := congrArg (·.toList.head?) h
  simp [status, Verdict.obsolete] at hc

theorem Sensor.verdictBy_ne_obsolete {sensor : Sensor} (h : sensor.obsolete = false)
    {check : Binary64 → Verdict} (hm : ∀ value, (check value).metrics ≠ []) :
    sensor.verdictBy check ≠ .obsolete := by
  rcases sensor.verdictBy_cases check with ⟨ho, _⟩ | ⟨_, _, hv⟩ | ⟨value, _, _, hv⟩
  · exact absurd ho (by simp [h])
  · exact fun he => sensor.device.status_ne_obsolete (congrArg Verdict.summary (hv.symm.trans he))
  · exact fun he => hm value (congrArg Verdict.metrics (hv.symm.trans he))

theorem Sensor.live_of_isTemperatureItem {sensor : Sensor} (h : sensor.isTemperatureItem) :
    sensor.obsolete = false := by
  simp only [isTemperatureItem, Bool.and_eq_true, Bool.not_eq_true'] at h
  exact h.1

theorem Sensor.Filed.live_of_dBm {sensor : Sensor} {item : String} (h : sensor.Filed .dBm item) :
    sensor.obsolete = false :=
  h.valid.live_of_entity (h.valid.entity_of_dBm h.quantity_eq)

namespace Section

variable {s : Section} {quantity : Quantity} {check : Sensor → Verdict → Prop}

inductive Answers (s : Section) (quantity : Quantity) (check : Sensor → Verdict → Prop) :
    List String → List (String × Verdict) → Prop
  | nil : Answers s quantity check [] []
  | unknown {item items results} :
    s.get? quantity item = none → Answers s quantity check items results →
      Answers s quantity check (item :: items) results
  | known {item items results sensor verdict} :
    s.get? quantity item = some sensor → check sensor verdict →
      Answers s quantity check items results →
      Answers s quantity check (item :: items) ((item, verdict) :: results)

namespace Answers

variable {items : List String} {results : List (String × Verdict)}

theorem map_fst (h : s.Answers quantity check items results) :
    results.map (·.1) = items.filter fun item => (s.get? quantity item).isSome := by
  induction h
  case nil => rfl
  case unknown hg _ ih => simp [hg, ih]
  case known hg _ _ ih => simp [hg, ih]

theorem exists_sensor (h : s.Answers quantity check items results) {result : String × Verdict}
    (hr : result ∈ results) :
    ∃ sensor, s.get? quantity result.1 = some sensor ∧ check sensor result.2 := by
  induction h
  case nil => cases hr
  case unknown ih => exact ih hr
  case known hg hc _ ih =>
    rcases List.mem_cons.mp hr with hr | hr
    · exact hr ▸ ⟨_, hg, hc⟩
    · exact ih hr

end Answers

-- Each item is checked with the store that the items before it have left; whatever sample it finds
-- there, the verdict is on its own sensor.
theorem answers_checkTemperatures (params : TemperatureParams) (now : Instant)
    (items : List String) (store : SampleStore) :
    s.Answers .celsius
      (fun sensor verdict => ∃ earlier, verdict = sensor.verdictSince params now earlier)
      items (s.checkTemperatures params now items store).1 := by
  induction items generalizing store
  case nil => exact .nil
  case cons item items ih =>
    rw [checkTemperatures, checkTemperature_eq]
    cases hg : s.get? .celsius item
    case none => exact .unknown hg (ih _)
    case some sensor => exact .known hg ⟨_, rfl⟩ (ih _)

theorem answers_checkPowers (params : OpticalParams) (items : List String) :
    s.Answers .dBm (fun sensor verdict => verdict = sensor.checkPower params) items
      (s.checkPowers params items) := by
  induction items
  case nil => exact .nil
  case cons item items ih =>
    rw [checkPowers, List.filterMap_cons, checkPower]
    cases hg : s.get? .dBm item
    case none => exact .unknown hg ih
    case some sensor => exact .known hg rfl ih

structure Offers (s : Section) (quantity : Quantity) (worth : Sensor → Bool)
    (items : List String) : Prop where
  sorted : items.Pairwise (· < ·)
  mem_iff {item} : item ∈ items ↔ ∃ sensor, s.get? quantity item = some sensor ∧ worth sensor

theorem offers_ofTables (tables : Tables) (quantity : Quantity) (worth : Sensor → Bool) :
    (ofTables tables).Offers quantity worth
      ((((ofTables tables).sensors quantity).filter worth).map (·.item)) where
  sorted := (pairwise_sensors tables quantity).sublist (List.filter_sublist.map _)
  mem_iff {item} := by
    simp only [List.mem_map, List.mem_filter, mem_sensors_iff]
    constructor
    · intro ⟨sensor, ⟨hg, hw⟩, hi⟩
      exact ⟨sensor, hi ▸ hg, hw⟩
    · intro ⟨sensor, hg, hw⟩
      have hi := (filed_of_get? hg).item_eq
      exact ⟨sensor, ⟨hi.symm ▸ hg, hw⟩, hi⟩

-- What comes of checking the items on a list, or all those on offer where there is no list.
structure Results (s : Section) (quantity : Quantity) (worth : Sensor → Bool)
    (check : Sensor → Verdict → Prop) (offered : List String) (listed : Option (List String))
    (results : List (String × Verdict)) : Prop where
  -- Every item on offer has its result, in the order of the names, and no result says that a sensor
  -- is obsolete.
  offered : listed = none → results.map (·.1) = offered ∧ s.Offers quantity worth offered
    ∧ ∀ result ∈ results, result.2 ≠ .obsolete
  -- Every listed item that the section holds has its result, in the order of the list.
  listed {items} : listed = some items →
    results.map (·.1) = items.filter fun item => (s.get? quantity item).isSome
  -- A result is the verdict on the sensor of the item.
  checked : ∀ result ∈ results,
    ∃ sensor, s.get? quantity result.1 = some sensor ∧ check sensor result.2

theorem Answers.results {worth : Sensor → Bool} {offered : List String}
    {listed : Option (List String)} {results : List (String × Verdict)}
    (h : s.Answers quantity check (listed.getD offered) results)
    (ho : s.Offers quantity worth offered)
    (hc : ∀ {item sensor verdict}, s.get? quantity item = some sensor → worth sensor →
      check sensor verdict → verdict ≠ .obsolete) :
    s.Results quantity worth check offered listed results := by
  refine ⟨?offered, ?listed, fun _ => h.exists_sensor⟩
  case listed =>
    intro items hl
    rw [h.map_fst, hl, Option.getD_some]
  case offered =>
    intro hl
    have hm : results.map (·.1) = offered := by
      rw [h.map_fst, hl, Option.getD_none, List.filter_eq_self]
      intro item hi
      have ⟨sensor, hg, _⟩ := ho.mem_iff.mp hi
      rw [hg, Option.isSome_some]
    refine ⟨hm, ho, ?_⟩
    intro result hr
    have ⟨sensor, hg, hv⟩ := h.exists_sensor hr
    have ⟨worthy, hg', hw⟩ := ho.mem_iff.mp (hm ▸ List.mem_map_of_mem hr)
    cases hg.symm.trans hg'
    exact hc hg hw hv

end Section
end SensorWatch
