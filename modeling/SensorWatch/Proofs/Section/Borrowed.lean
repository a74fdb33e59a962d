import SensorWatch.Proofs.Number.Numeral
import SensorWatch.Proofs.Section.Numbers
import SensorWatch.Proofs.Section.Warned

namespace SensorWatch

namespace MonitorRow

variable {row : MonitorRow} {entity : Option Sensor} {n : Int}

-- A maximum that is needed, since the entity sensor has no upper levels, and can not be read.
structure BadMaximum (row : MonitorRow) (entity : Option Sensor) : Prop where
  upper_eq_none : entity.bind (·.limits.upper) = none
  ne_empty : Text.strip row.maxThreshold ≠ ""
  not_signed : ∀ n, ¬Signed 64 (Text.strip row.maxThreshold) n

def Malformed (row : MonitorRow) (entity : Option Sensor) : Prop :=
  (∀ n, ¬Signed 64 (Text.strip row.value) n) ∨ row.BadMaximum entity

theorem toOption_reading_eq_some_iff {x : Binary64} :
    row.reading.toOption = some x ↔ ∃ n, Signed 64 (Text.strip row.value) n ∧ x = .ofInt n := by
  simp only [toOption_reading, Option.map_eq_some_iff, IntRange.read?_signed_eq_some_iff,
    @eq_comm _ x]

theorem toOption_reading_eq_none_iff :
    row.reading.toOption = none ↔ ∀ n, ¬Signed 64 (Text.strip row.value) n := by
  rw [toOption_reading, Option.map_eq_none_iff, IntRange.read?_signed_eq_none_iff]

theorem ownUpper_of_empty (h : Text.strip row.maxThreshold = "") : row.ownUpper = .ok none := by
  rw [ownUpper, h]
  rfl

theorem ownUpper_of_signed (h : Signed 64 (Text.strip row.maxThreshold) n) :
    row.ownUpper = .ok (if n = 0 then none else some ⟨.ofInt n, .ofInt n⟩) := by
  have he : (Text.strip row.maxThreshold).isEmpty = false := by
    simpa [String.isEmpty_iff] using h.ne_empty
  simp [ownUpper, he, IntRange.read?_signed_eq_some_iff.mpr h]

theorem toOption_ownUpper_eq_none_iff :
    row.ownUpper.toOption = none ↔
      Text.strip row.maxThreshold ≠ "" ∧ ∀ n, ¬Signed 64 (Text.strip row.maxThreshold) n := by
  by_cases he : Text.strip row.maxThreshold = ""
  case pos => simp [ownUpper_of_empty he, he, Except.toOption]
  case neg =>
    cases hr : (IntRange.signed 64).read? (Text.strip row.maxThreshold)
    case some n =>
      have hs := IntRange.read?_signed_eq_some_iff.mp hr
      rw [ownUpper_of_signed hs]
      exact iff_of_false (by simp [Except.toOption]) fun h => h.2 n hs
    case none =>
      have hs := IntRange.read?_signed_eq_none_iff.mp hr
      simp [ownUpper, hr, he, hs, Except.toOption, String.isEmpty_iff]

theorem upper_of_some {levels : Levels} (h : entity.bind (·.limits.upper) = some levels) :
    row.upper entity = .ok (some levels) := by
  rw [upper, h]

theorem upper_of_none (h : entity.bind (·.limits.upper) = none) :
    row.upper entity = row.ownUpper := by
  rw [upper, h]

theorem toOption_upper_eq_none_iff :
    (row.upper entity).toOption = none ↔ row.BadMaximum entity := by
  cases h : entity.bind (·.limits.upper)
  case some levels =>
    rw [upper_of_some h]
    exact iff_of_false nofun fun hb => nomatch h.symm.trans hb.upper_eq_none
  case none =>
    rw [upper_of_none h, toOption_ownUpper_eq_none_iff]
    exact ⟨fun ⟨he, hs⟩ => ⟨h, he, hs⟩, fun hb => ⟨hb.ne_empty, hb.not_signed⟩⟩

theorem toOption_limits_eq_none_iff :
    (row.limits entity).toOption = none ↔ row.Malformed entity := by
  rw [Malformed, ← toOption_reading_eq_none_iff, ← toOption_upper_eq_none_iff, toOption_limits]
  cases row.reading.toOption <;> simp

section

variable (item : String)

theorem sensor_reading : (row.sensor entity item).reading = row.reading.toOption := by
  rw [sensor_eq]

theorem sensor_of_malformed (h : row.Malformed entity) :
    (row.sensor entity item).limits = {} ∧ (row.sensor entity item).device = .defect := by
  rw [sensor_eq, toOption_limits_eq_none_iff.mpr h]
  simp

theorem sensor_of_not_malformed (h : ¬row.Malformed entity) :
    ∃ upper, row.upper entity = .ok upper
      ∧ (row.sensor entity item).limits = ⟨upper, entity.bind (·.limits.lower)⟩
      ∧ (row.sensor entity item).device = .ofMonitorCode row.state := by
  rw [← toOption_limits_eq_none_iff, ← ne_eq, Option.ne_none_iff_exists'] at h
  have ⟨limits, hl⟩ := h
  rw [sensor_eq, hl]
  rw [toOption_limits, Option.bind_eq_some_iff] at hl
  have ⟨_, _, hl⟩ := hl
  have ⟨upper, hu, hl⟩ := Option.map_eq_some_iff.mp hl
  exact ⟨upper, Except.toOption_eq_some_iff.mp hu, hl.symm, by simp⟩

theorem sensor_with_maxThreshold (h : entity.bind (·.limits.upper) ≠ none) (text : String) :
    { row with maxThreshold := text }.sensor entity item = row.sensor entity item := by
  have ⟨levels, hl⟩ := Option.ne_none_iff_exists'.mp h
  simp only [sensor_eq, limits, upper_of_some hl, reading]

end

-- What a row makes of its sensor. A reading needs no more than a value. The upper levels are those of
-- the entity sensor, and then nobody asks for the row's maximum; only without them is the maximum the
-- one level for everything, unless it is zero or empty. The lower levels are always those of the
-- entity sensor. A number that is needed and can not be read makes the sensor defect and takes the
-- levels of both sides away; otherwise the sensor is in the state of its row.
theorem texts_decide_sensor (row : MonitorRow) (entity : Option Sensor) (item : String) :
    (∀ x, (row.sensor entity item).reading = some x ↔
        ∃ n, Signed 64 (Text.strip row.value) n ∧ x = .ofInt n)
      ∧ ((row.sensor entity item).device = .defect ↔ row.Malformed entity)
      ∧ (row.Malformed entity → (row.sensor entity item).limits = {})
      ∧ (¬row.Malformed entity →
          (row.sensor entity item).device = .ofMonitorCode row.state
            ∧ (row.sensor entity item).limits.lower = entity.bind (·.limits.lower)
            ∧ (∀ levels, entity.bind (·.limits.upper) = some levels →
                (row.sensor entity item).limits.upper = some levels)
            ∧ (entity.bind (·.limits.upper) = none →
                (∀ n, Signed 64 (Text.strip row.maxThreshold) n → n ≠ 0 →
                  (row.sensor entity item).limits.upper = some ⟨.ofInt n, .ofInt n⟩)
                ∧ (Text.strip row.maxThreshold = "" ∨ Signed 64 (Text.strip row.maxThreshold) 0 →
                  (row.sensor entity item).limits.upper = none)))
      ∧ (row.sensor entity item).description = (entity.map (·.description)).getD row.description
      ∧ (entity.bind (·.limits.upper) ≠ none → ∀ text,
          { row with maxThreshold := text }.sensor entity item = row.sensor entity item) := by
  refine ⟨?reading, ?device, ?defect, ?sound, by rw [sensor_eq], ?maximum⟩
  case reading =>
    intro x
    rw [sensor_reading, toOption_reading_eq_some_iff]
  case device =>
    constructor
    · intro hd
      by_contra h
      have ⟨_, _, _, hs⟩ := sensor_of_not_malformed item h
      exact DeviceState.ofMonitorCode_ne_defect _ (hs ▸ hd)
    · exact fun h => (sensor_of_malformed item h).2
  case defect => exact fun h => (sensor_of_malformed item h).1
  case sound =>
    intro h
    have ⟨upper, hu, hl, hd⟩ := sensor_of_not_malformed item h
    have hx {upper'} (h : row.upper entity = .ok upper') :
        (row.sensor entity item).limits.upper = upper' := by
      rw [hl, Except.ok.inj (hu.symm.trans h)]
    refine ⟨hd, by rw [hl], fun levels he => hx (upper_of_some he), fun he => ⟨?own, ?none⟩⟩
    case own =>
      intro n hn h0
      exact hx (by rw [upper_of_none he, ownUpper_of_signed hn, if_neg h0])
    case none =>
      rintro (h0 | h0)
      · exact hx (by rw [upper_of_none he, ownUpper_of_empty h0])
      · exact hx (by rw [upper_of_none he, ownUpper_of_signed h0, if_pos rfl])
  case maximum => exact sensor_with_maxThreshold item

def outletRow : MonitorRow :=
  ⟨"5", "Outlet, left", " +36", "max", " 2"⟩

def outletEntity : Sensor where
  item := "Outlet"
  quantity := .celsius
  description := "Outlet"
  source := .entity
  rawState := "1"
  device := ⟨.ok, "OK"⟩
  limits := { upper := some ⟨.ofInt 40, .ofInt 60⟩, lower := some ⟨.ofInt 5, .ofInt 0⟩ }

theorem outlet_decided :
    (¬outletRow.Malformed (some outletEntity)
        ∧ (outletRow.sensor (some outletEntity) "Outlet").limits.upper = outletEntity.limits.upper
        ∧ (outletRow.sensor (some outletEntity) "Outlet").limits.lower = outletEntity.limits.lower
        ∧ (outletRow.sensor (some outletEntity) "Outlet").device = ⟨.warn, "warning"⟩)
      ∧ outletRow.Malformed none
        ∧ (outletRow.sensor none "Outlet").reading = some (.ofInt 36)
        ∧ (outletRow.sensor none "Outlet").limits = {}
        ∧ (outletRow.sensor none "Outlet").device = .defect := by
  have hv : Signed 64 (Text.strip outletRow.value) 36 := by decide +kernel
  have hm : ∀ n, ¬Signed 64 (Text.strip outletRow.maxThreshold) n :=
    IntRange.read?_signed_eq_none_iff.mp (by decide +kernel)
  have hb : outletRow.Malformed none := .inr ⟨rfl, by decide +kernel, hm⟩
  have hs : ¬outletRow.Malformed (some outletEntity) := by
    rintro (h | h)
    · exact h 36 hv
    · cases h.upper_eq_none
  have ⟨_, _, _, hsound, _⟩ := texts_decide_sensor outletRow (some outletEntity) "Outlet"
  have ⟨hr, hd, hl, _⟩ := texts_decide_sensor outletRow none "Outlet"
  have ⟨hstate, hlower, hupper, _⟩ := hsound hs
  exact ⟨⟨hs, hupper _ rfl, hlower, hstate.trans (by decide +kernel)⟩, hb,
    (hr _).mpr ⟨36, hv, rfl⟩, hl hb, hd.mpr hb⟩

end MonitorRow
end SensorWatch
