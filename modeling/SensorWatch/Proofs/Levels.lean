import SensorWatch.Proofs.State
import SensorWatch.Sample.Trend

namespace SensorWatch

namespace Binary64

variable {x y z : Binary64}

theorem le_trans (hxy : x ≤ y) (hyz : y ≤ z) : x ≤ z :=
  ⟨hxy.1, hyz.2.1, hxy.2.2.trans hyz.2.2⟩

-- Only a NaN is not at most itself, and a NaN is at most nothing.
theorem le_self_of_le (h : x ≤ y) : x ≤ x :=
  ⟨h.1, h.1, le_rfl⟩

end Binary64

namespace State

theorem ok_le (s : State) : .ok ≤ s := by
  cases s <;> decide

theorem max_eq_ok_iff {s t : State} : max s t = .ok ↔ s = .ok ∧ t = .ok := by
  cases s <;> cases t <;> decide

def graded (crit warn : Bool) : State :=
  if crit then .crit else if warn then .warn else .ok

theorem max_graded (crit warn crit' warn' : Bool) :
    max (graded crit warn) (graded crit' warn') = graded (crit || crit') (warn || warn') := by
  cases crit <;> cases warn <;> cases crit' <;> cases warn' <;> rfl

variable {crit warn : Bool}

def alarm? (state : State) : Option State :=
  if state = .ok then none else some state

theorem graded_eq_crit_iff : graded crit warn = .crit ↔ crit = true := by
  cases crit <;> cases warn <;> simp [graded]

theorem graded_eq_warn_iff : graded crit warn = .warn ↔ crit = false ∧ warn = true := by
  cases crit <;> cases warn <;> simp [graded]

end State

namespace Levels

variable {levels : Levels} {value : Binary64}

theorem upperState_of_crit_le (h : levels.crit ≤ value) : levels.upperState value = .crit :=
  if_pos h

theorem warn_le_upperState (h : levels.warn ≤ value) : .warn ≤ levels.upperState value := by
  rw [upperState, if_pos h]
  split <;> decide

end Levels

namespace Limits

variable (limits : Limits) (value : Binary64)

def upperState : State :=
  (limits.upper.map (·.upperState value)).getD .ok

def lowerState : State :=
  (limits.lower.map (·.lowerState value)).getD .ok

def worstState : State :=
  (limits.upperState value).worst (limits.lowerState value)

def meetsCrit : Bool :=
  limits.upper.any (·.crit ≤ value) || limits.lower.any (value ≤ ·.crit)

def meetsWarn : Bool :=
  limits.upper.any (·.warn ≤ value) || limits.lower.any (value ≤ ·.warn)

theorem upperState_eq_graded :
    limits.upperState value
      = .graded (limits.upper.any (·.crit ≤ value)) (limits.upper.any (·.warn ≤ value)) := by
  rw [upperState]
  cases limits.upper <;> simp [Levels.upperState, State.graded]

theorem lowerState_eq_graded :
    limits.lowerState value
      = .graded (limits.lower.any (value ≤ ·.crit)) (limits.lower.any (value ≤ ·.warn)) := by
  rw [lowerState]
  cases limits.lower <;> simp [Levels.lowerState, State.graded]

theorem worstState_eq_graded :
    limits.worstState value = .graded (limits.meetsCrit value) (limits.meetsWarn value) := by
  rw [worstState, State.worst_eq_max, upperState_eq_graded, lowerState_eq_graded, State.max_graded,
    meetsCrit, meetsWarn]

theorem map_state_breach_of_side (side : Side) (levels? : Option Levels) (f : Levels → State) :
    (levels?.bind fun levels =>
        match f levels with
        | .ok => none
        | state => some (Breach.mk side levels state)).map (·.state)
      = ((levels?.map f).getD .ok).alarm? := by
  cases levels?
  case none => rfl
  case some levels => cases h : f levels <;> simp [h, State.alarm?]

-- The lower side is only heard where the upper one has nothing to say.
theorem map_state_breach? :
    (limits.breach? value).map (·.state)
      = (limits.upperState value).alarm?.or (limits.lowerState value).alarm? := by
  have hu : (limits.upperBreach? value).map (·.state) = (limits.upperState value).alarm? :=
    map_state_breach_of_side .upper limits.upper (·.upperState value)
  have hl : (limits.lowerBreach? value).map (·.state) = (limits.lowerState value).alarm? :=
    map_state_breach_of_side .lower limits.lower (·.lowerState value)
  rw [breach?, Option.orElse_eq_orElse, Option.orElse_eq_or, Option.map_or, hu, hl]

theorem state_eq_ite :
    limits.state value
      = if limits.upperState value = .ok then limits.lowerState value
        else limits.upperState value := by
  rw [state, map_state_breach?]
  cases limits.upperState value <;> cases limits.lowerState value <;> rfl

theorem upperState_le_state : limits.upperState value ≤ limits.state value := by
  rw [state_eq_ite]
  split
  case isTrue h  => exact h ▸ State.ok_le _
  case isFalse h => exact le_rfl

theorem breach?_eq_none_iff : limits.breach? value = none ↔ limits.state value = .ok := by
  rw [state, map_state_breach?, ← Option.map_eq_none_iff (f := Breach.state), map_state_breach?]
  cases limits.upperState value <;> cases limits.lowerState value <;> simp [State.alarm?]

theorem state_eq_worstState_iff_sides :
    limits.state value = limits.worstState value ↔
      ¬(limits.upperState value = .warn ∧ limits.lowerState value = .crit) := by
  rw [state_eq_ite, worstState, upperState_eq_graded, lowerState_eq_graded]
  generalize limits.upper.any (·.crit ≤ value) = crit, limits.upper.any (·.warn ≤ value) = warn,
    limits.lower.any (value ≤ ·.crit) = crit', limits.lower.any (value ≤ ·.warn) = warn'
  revert crit warn crit' warn'
  decide

-- The limits that never hide a critical state: a value that meets the upper level for warning and
-- the lower critical one meets the upper critical one too.
theorem forall_state_eq_worstState_iff :
    (∀ value, limits.state value = limits.worstState value) ↔
      ∀ upper ∈ limits.upper, ∀ lower ∈ limits.lower,
        upper.warn ≤ lower.crit → upper.crit ≤ upper.warn := by
  simp only [state_eq_worstState_iff_sides, upperState_eq_graded, lowerState_eq_graded,
    State.graded_eq_warn_iff, State.graded_eq_crit_iff]
  constructor
  case mp =>
    intro h upper hu lower hl hle
    by_contra hc
    rw [Option.mem_def] at hu hl
    -- The level for warning itself is a value that meets these two levels and no other.
    refine h upper.warn ⟨⟨?crit, ?warn⟩, ?lower⟩
    case crit  => simp [hu, hc]
    case warn  => simp [hu, Binary64.le_self_of_le hle]
    case lower => simp [hl, hle]
  case mpr =>
    rintro h value ⟨⟨hc, hw⟩, hl⟩
    simp only [Option.any_eq_true, decide_eq_true_eq] at hw hl
    obtain ⟨upper, hu, hw⟩ := hw
    obtain ⟨lower, hl, hlc⟩ := hl
    have hle := h upper hu lower hl (Binary64.le_trans hw hlc)
    simp [hu, Binary64.le_trans hle hw] at hc

theorem state_trendParams (params : TrendParams) (rate : Binary64) :
    params.state rate = worstState ⟨params.upper, params.lower.map (·.negated)⟩ rate := by
  rw [TrendParams.state, worstState, upperState, lowerState, Option.map_map]
  rfl

-- The worse one of the two sides is critical if the value meets a critical level on either side, and
-- otherwise a warning if it meets a level for warning. This is the state of every rate. It is the
-- state of a value too, except where the value only warns above and is critical below: then it only
-- warns. Such values exist exactly if the upper level for warning is at most the lower critical
-- level, and the upper critical level is not at most the upper one for warning.
theorem state_eq_worstState_iff (limits : Limits) :
    (∀ value, limits.worstState value
        = if limits.meetsCrit value then .crit else if limits.meetsWarn value then .warn else .ok)
      ∧ (∀ (params : TrendParams) (rate : Binary64), params.state rate
          = worstState ⟨params.upper, params.lower.map (·.negated)⟩ rate)
      ∧ (∀ value, limits.state value
          = if limits.upperState value = .warn ∧ limits.lowerState value = .crit then .warn
            else limits.worstState value)
      ∧ ((∀ value, limits.state value = limits.worstState value) ↔
          ∀ upper ∈ limits.upper, ∀ lower ∈ limits.lower,
            upper.warn ≤ lower.crit → upper.crit ≤ upper.warn) := by
  refine ⟨limits.worstState_eq_graded, state_trendParams, ?value,
    limits.forall_state_eq_worstState_iff⟩
  case value =>
    intro value
    split
    case isTrue h => rw [state_eq_ite, h.1, if_neg (by decide)]
    case isFalse h => exact (limits.state_eq_worstState_iff_sides value).mpr h

def overlapping : Limits where
  upper := some ⟨.ofInt 4, .ofInt 10⟩
  lower := some ⟨.ofInt 6, .ofInt 5⟩

-- A value can meet a critical level without being critical.
theorem not_forall_state_eq_worstState :
    ¬∀ (limits : Limits) (value : Binary64), limits.state value = limits.worstState value := by
  intro h
  have hs : overlapping.state (.ofInt 5) = .warn := by decide +kernel
  have hw : overlapping.worstState (.ofInt 5) = .crit := by decide +kernel
  rw [h overlapping (.ofInt 5), hw] at hs
  cases hs

end Limits
end SensorWatch
