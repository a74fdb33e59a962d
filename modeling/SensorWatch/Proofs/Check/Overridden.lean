import SensorWatch.Check.Optical
import SensorWatch.Proofs.Check.Handling

namespace SensorWatch

namespace Handling

variable {operator device : Limits} {value : Binary64} {handling : Handling}

-- An operator's limits replace the device's as a whole, even if they have levels on one side only.
theorem pick_eq_operator (h : handling = .usr ∨ handling = .usrdefault ∧ operator.isNone = false) :
    handling.pick operator device value = operator := by
  rcases h with rfl | ⟨rfl, ho⟩
  case inl => rfl
  case inr => exact Limits.orElse_of_isNone_eq_false ho

theorem pick_eq_device (h : handling = .dev ∨ handling = .devdefault ∧ device.isNone = false) :
    handling.pick operator device value = device := by
  rcases h with rfl | ⟨rfl, hd⟩
  case inl => rfl
  case inr => exact Limits.orElse_of_isNone_eq_false hd

end Handling

theorem LevelsSetting.effective_congr {setting : LevelsSetting} {device device' : Option Levels}
    (h : device ≠ device' → setting ≠ .device) :
    setting.effective device = setting.effective device' := by
  cases setting
  case device => exact of_not_not (h · rfl)
  case off    => rfl
  case fixed  => rfl

def Sensor.unlimited (sensor : Sensor) : Sensor :=
  { sensor with limits := {} }

def Section.unlimited (s : Section) : Section where
  partitions := s.partitions.map fun _ sensors => sensors.map fun _ => Sensor.unlimited

namespace Sensor

variable {sensor sensor' : Sensor}

theorem measured_of_unlimited (h : sensor.unlimited = sensor'.unlimited) :
    sensor.measured = sensor'.measured :=
  (congrArg measured h :)

theorem checkTemperature_congr {params params' : TemperatureParams}
    (h : sensor.unlimited = sensor'.unlimited) (hp : params.unlimited = params'.unlimited)
    (hl : ∀ value, params.handling.pick params.limits sensor.limits value
      = params'.handling.pick params'.limits sensor'.limits value)
    (name : String) (now : Instant) (store : SampleStore) :
    sensor.checkTemperature params name now store
      = sensor'.checkTemperature params' name now store := by
  rw [checkTemperature, checkTemperature, measured_of_unlimited h]
  cases sensor'.measured
  case error => rfl
  case ok value =>
    have hd : sensor.device = sensor'.device := (congrArg device h :)
    exact TemperatureReading.check_congr name now store
      (congrArg (TemperatureReading.mk value {}) hd) hp (hl value)

theorem checkPower_congr {params : OpticalParams} (h : sensor.unlimited = sensor'.unlimited)
    (hl : params.limits sensor.limits = params.limits sensor'.limits) :
    sensor.checkPower params = sensor'.checkPower params := by
  have hd : sensor.device = sensor'.device := (congrArg device h :)
  have ht : sensor.description = sensor'.description := (congrArg description h :)
  rw [checkPower, checkPower, measured_of_unlimited h, hl, hd, ht]

end Sensor

namespace Section

variable {s s' : Section} {quantity : Quantity} {item : String}

theorem get?_unlimited (s : Section) (quantity : Quantity) (item : String) :
    s.unlimited.get? quantity item = (s.get? quantity item).map (·.unlimited) := by
  simp only [get?, unlimited, ByQuantity.sensors, Std.ExtTreeMap.getElem?_map]
  cases s.partitions[quantity]? <;> simp

theorem rel_get?_of_unlimited (h : s.unlimited = s'.unlimited) (quantity : Quantity)
    (item : String) :
    Option.Rel (fun sensor sensor' => sensor.unlimited = sensor'.unlimited)
      (s.get? quantity item) (s'.get? quantity item) := by
  have hg := congrArg (·.get? quantity item) h
  simp only [get?_unlimited] at hg
  generalize s.get? quantity item = sensor?, s'.get? quantity item = sensor'? at hg
  cases sensor? <;> cases sensor'?
  case none.none => exact .none
  case some.some => exact .some (Option.some.inj hg)
  all_goals cases hg

def declared (s : Section) (quantity : Quantity) (item : String) : Limits :=
  ((s.get? quantity item).map (·.limits)).getD {}

theorem checkTemperature_congr {params params' : TemperatureParams}
    (h : s.unlimited = s'.unlimited) (hp : params.unlimited = params'.unlimited)
    (hl : ∀ value, params.handling.pick params.limits (s.declared .celsius item) value
      = params'.handling.pick params'.limits (s'.declared .celsius item) value)
    (now : Instant) (store : SampleStore) :
    s.checkTemperature params now item store = s'.checkTemperature params' now item store := by
  have hr := rel_get?_of_unlimited h .celsius item
  unfold declared at hl
  rw [checkTemperature, checkTemperature]
  generalize s.get? .celsius item = sensor?, s'.get? .celsius item = sensor'? at hr hl
  cases hr
  case none => rfl
  case some hs => simp only [Sensor.checkTemperature_congr hs hp hl]

theorem checkPower_congr {params : OpticalParams} (h : s.unlimited = s'.unlimited)
    (hl : params.limits (s.declared .dBm item) = params.limits (s'.declared .dBm item)) :
    s.checkPower params item = s'.checkPower params item := by
  have hr := rel_get?_of_unlimited h .dBm item
  unfold declared at hl
  rw [checkPower, checkPower]
  generalize s.get? .dBm item = sensor?, s'.get? .dBm item = sensor'? at hr hl
  cases hr
  case none => rfl
  case some hs => exact congrArg some (Sensor.checkPower_congr hs hl)

-- Levels that are overridden may be anything. Those of the device do not count for an operator who
-- has levels of their own and wants these, be it on one side only; nor for a side of the signal power
-- where the operator has set a pair or none. Those of the operator do not count for one who wants the
-- device's, where it declares any.
theorem check_eq_of_overridden (h : s.unlimited = s'.unlimited) (item : String) :
    (∀ (params : TemperatureParams) (now : Instant) (store : SampleStore),
        params.handling = .usr ∨ params.handling = .usrdefault ∧ params.limits.isNone = false →
        s.checkTemperature params now item store = s'.checkTemperature params now item store)
      ∧ (∀ params : OpticalParams,
          ((s.declared .dBm item).upper ≠ (s'.declared .dBm item).upper →
            params.upper ≠ .device) →
          ((s.declared .dBm item).lower ≠ (s'.declared .dBm item).lower →
            params.lower ≠ .device) →
          s.checkPower params item = s'.checkPower params item)
      ∧ ∀ (params : TemperatureParams) (limits : Limits) (now : Instant) (store : SampleStore),
          params.handling = .dev
            ∨ params.handling = .devdefault ∧ (s.declared .celsius item).isNone = false →
          s.checkTemperature params now item store
            = s.checkTemperature { params with limits := limits } now item store := by
  refine ⟨?device, ?power, ?operator⟩
  case device =>
    intro params now store ho
    apply checkTemperature_congr h rfl
    intro value
    rw [Handling.pick_eq_operator ho, Handling.pick_eq_operator ho]
  case power =>
    intro params hu hl
    refine checkPower_congr h ?_
    rw [OpticalParams.limits, OpticalParams.limits, LevelsSetting.effective_congr hu,
      LevelsSetting.effective_congr hl]
  case operator =>
    intro params limits now store hd
    apply checkTemperature_congr rfl
    case hp => rfl
    case hl =>
      intro value
      rw [Handling.pick_eq_device hd, Handling.pick_eq_device hd]

def declaring (thresholds : List (List String)) : Tables where
  descriptions := [["7", "Inlet"], ["21", "Te1/1 Receive Power"]]
  sensorStates := [["7", "8", "9", "0", "55", "1"], ["21", "14", "9", "1", "-34", "1"]]
  thresholds := thresholds

theorem declaring_overridden :
    let s := ofTables (declaring [["7.1", "10", "4", "40"], ["7.2", "20", "4", "50"],
      ["21.1", "1", "4", "-90"], ["21.2", "1", "4", "-50"]])
    let s' := ofTables (declaring [])
    let cold : Limits := { lower := some ⟨.ofInt 5, .ofInt 0⟩ }
    let params : OpticalParams := { upper := .off, lower := .fixed ⟨.ofInt (-3), .ofInt (-9)⟩ }
    s.unlimited = s'.unlimited
      ∧ s.checkTemperature { limits := cold } ⟨0⟩ "Inlet" {}
        = s'.checkTemperature { limits := cold } ⟨0⟩ "Inlet" {}
      ∧ s.checkPower params "Te1/1 Receive Power" = s'.checkPower params "Te1/1 Receive Power"
      ∧ (s.declared .celsius "Inlet").isNone = false
      ∧ s.checkTemperature { handling := .devdefault } ⟨0⟩ "Inlet" {}
        = s.checkTemperature { limits := cold, handling := .devdefault } ⟨0⟩ "Inlet" {} := by
  intro s s' cold params
  have h : s.unlimited = s'.unlimited := by decide +kernel
  have hd : (s.declared .celsius "Inlet").isNone = false := by decide +kernel
  have ⟨ht, _, hl⟩ := check_eq_of_overridden h "Inlet"
  have ⟨_, hw, _⟩ := check_eq_of_overridden h "Te1/1 Receive Power"
  refine ⟨h, ht _ _ _ (.inr ⟨rfl, rfl⟩), hw params (fun _ => ?upper) (fun _ => ?lower), hd,
    hl _ _ _ _ (.inr ⟨rfl, hd⟩)⟩
  case upper => decide
  case lower => decide

end Section
end SensorWatch
