import SensorWatch.Proofs.Check.Comparison
import SensorWatch.Proofs.Check.Temperature
import SensorWatch.Proofs.Levels

namespace SensorWatch

namespace Handling

variable {operator device : Limits} {value : Binary64} {handling : Handling}

def fallsBack : Handling → Bool
  | usr | dev => false
  | best | worst | usrdefault | devdefault => true

-- Whatever the rule, the limits that are picked are those of one source.
theorem pick_eq_or (handling : Handling) (operator device : Limits) (value : Binary64) :
    handling.pick operator device value = operator
      ∨ handling.pick operator device value = device := by
  cases handling
  case usr => exact .inl rfl
  case dev => exact .inr rfl
  case usrdefault | devdefault =>
    simp only [pick, Limits.orElse]
    split <;> simp
  case best | worst =>
    simp only [pick]
    split
    · exact .inl rfl
    · split <;> simp

theorem pick_of_isNone (h : operator.isNone ∨ device.isNone) (hf : handling.fallsBack) :
    handling.pick operator device value = operator.orElse device := by
  cases handling
  case usr | dev => cases hf
  case usrdefault => rfl
  case devdefault => exact Limits.orElse_comm h.symm
  case best | worst =>
    rw [Limits.orElse_comm h]
    by_cases hd : device.isNone
    case pos => simp [pick, Limits.orElse, hd]
    case neg => simp [pick, Limits.orElse, hd, h.resolve_right hd]

section

variable (ho : operator.isNone = false) (hd : device.isNone = false)

include ho hd

-- Between limits that both have levels, the best and the worst state are those of one of them. The
-- operator's limits give way only to a state that is strictly better, or worse.
theorem pick_best :
    best.pick operator device value
      = (if device.state value < operator.state value then dev else usr).pick
          operator device value := by
  simp only [pick, ho, hd, Bool.false_or, Bool.false_eq_true, if_false, decide_eq_true_eq,
    State.badness_lt_iff]
  split <;> rfl

theorem pick_worst :
    worst.pick operator device value
      = (if operator.state value < device.state value then dev else usr).pick
          operator device value := by
  simp only [pick, ho, hd, Bool.false_or, Bool.false_eq_true, if_false, decide_eq_true_eq,
    State.badness_lt_iff]
  split <;> rfl

theorem state_pick_best :
    (best.pick operator device value).state value
      = min (operator.state value) (device.state value) := by
  rw [pick_best ho hd]
  split
  case isTrue h  => exact (min_eq_right h.le).symm
  case isFalse h => exact (min_eq_left (not_lt.mp h)).symm

theorem state_pick_worst :
    (worst.pick operator device value).state value
      = max (operator.state value) (device.state value) := by
  rw [pick_worst ho hd]
  split
  case isTrue h  => exact (max_eq_right h.le).symm
  case isFalse h => exact (max_eq_left (not_lt.mp h)).symm

end

-- No handling comes out better than the best one or worse than the worst one, as long as it does not
-- hold the value against limits without levels where there are others.
theorem state_pick_between (value : Binary64)
    (h : handling.fallsBack ∨ (operator.isNone = false ∧ device.isNone = false)) :
    (best.pick operator device value).state value
        ≤ (handling.pick operator device value).state value
      ∧ (handling.pick operator device value).state value
        ≤ (worst.pick operator device value).state value := by
  by_cases hn : operator.isNone ∨ device.isNone
  case pos =>
    have hf : handling.fallsBack := h.resolve_right fun hb => by simp [hb.1, hb.2] at hn
    have hb : best.fallsBack := rfl
    have hw : worst.fallsBack := rfl
    simp [pick_of_isNone hn hf, pick_of_isNone hn hb, pick_of_isNone hn hw]
  case neg =>
    simp only [not_or, Bool.not_eq_true] at hn
    rw [state_pick_best hn.1 hn.2, state_pick_worst hn.1 hn.2]
    rcases handling.pick_eq_or operator device value with hp | hp <;> rw [hp]
    case inl => exact ⟨min_le_left .., le_max_left ..⟩
    case inr => exact ⟨min_le_right .., le_max_right ..⟩

end Handling

def TemperatureParams.unlimited (params : TemperatureParams) : TemperatureParams :=
  { params with limits := {}, handling := .usr }

def TemperatureReading.unlimited (r : TemperatureReading) : TemperatureReading :=
  { r with limits := {} }

namespace TemperatureReading

variable {r r' : TemperatureReading} {params params' : TemperatureParams} (name : String)
  (now : Instant) (store : SampleStore)

-- The limits that were picked are all that a check needs of limits: it is that of an operator who
-- has set them, and wants no others.
theorem check_eq_check_unlimited :
    r.check params name now store
      = r.unlimited.check { params.unlimited with limits := r.decisive params } name now store := by
  have hc : r.comparison params
      = r.unlimited.comparison { params.unlimited with limits := r.decisive params } := by
    rw [comparison_eq, comparison_eq]
    rfl
  simp only [check, verdict, hc]
  rfl

theorem check_congr (hr : r.unlimited = r'.unlimited) (hp : params.unlimited = params'.unlimited)
    (h : r.decisive params = r'.decisive params') :
    r.check params name now store = r'.check params' name now store := by
  rw [check_eq_check_unlimited, hr, hp, h, ← check_eq_check_unlimited]

theorem state_check :
    (r.check params name now store).1.state
      = max ((r.decisive params).state r.value)
          (r.unlimited.check params.unlimited name now store).1.state := by
  have hd : (r.unlimited.comparison params.unlimited).state = .ok := rfl
  have ht : r.unlimited.trend params.unlimited = r.trend params := rfl
  have hs : r.unlimited.device = r.device := rfl
  simp only [check, verdict, comparison_eq r, State.worst_eq_max, hd, ht, hs,
    max_eq_right (State.ok_le _), max_assoc]
  rfl

-- However the two sources of limits are handled, the verdict is between the best and the worst one.
-- Where both have levels, these two are the verdicts that one of the sources would give alone: the
-- operator's, unless the state that the device's limits give is better, or worse. Where one of the
-- two has none, there is nothing to choose, and any handling that falls back comes to the same.
theorem best_le_check_le_worst (r : TemperatureReading) (params : TemperatureParams) (name : String)
    (now : Instant) (store : SampleStore) :
    let under (handling : Handling) := r.check { params with handling := handling } name now store
    let operatorState := params.limits.state r.value
    let deviceState := r.limits.state r.value
    (∀ handling : Handling,
        handling.fallsBack ∨ (params.limits.isNone = false ∧ r.limits.isNone = false) →
        (under .best).1.state ≤ (under handling).1.state
          ∧ (under handling).1.state ≤ (under .worst).1.state)
      ∧ (params.limits.isNone = false → r.limits.isNone = false →
          under .best = under (if deviceState < operatorState then .dev else .usr)
            ∧ under .worst = under (if operatorState < deviceState then .dev else .usr))
      ∧ (params.limits.isNone ∨ r.limits.isNone →
          ∀ handling : Handling, handling.fallsBack → under handling = under .best) := by
  intro under operatorState deviceState
  have hs (handling : Handling) : (under handling).1.state
      = max ((handling.pick params.limits r.limits r.value).state r.value)
          (r.unlimited.check params.unlimited name now store).1.state :=
    state_check name now store
  have hc {a b : Handling} (h : a.pick params.limits r.limits r.value
      = b.pick params.limits r.limits r.value) : under a = under b :=
    check_congr name now store rfl rfl h
  refine ⟨?between, ?both, ?fallback⟩
  case between =>
    intro handling h
    have ⟨hb, hw⟩ := Handling.state_pick_between r.value h
    rw [hs, hs, hs]
    exact ⟨max_le_max_right _ hb, max_le_max_right _ hw⟩
  case both =>
    intro ho hd
    exact ⟨hc (Handling.pick_best ho hd), hc (Handling.pick_worst ho hd)⟩
  case fallback =>
    intro h handling hf
    refine hc ?_
    rw [Handling.pick_of_isNone h hf, Handling.pick_of_isNone h rfl]

def hotInlet : TemperatureReading where
  value := .ofInt 55
  limits := { upper := some ⟨.ofInt 40, .ofInt 50⟩ }
  device := ⟨.ok, "OK"⟩

def tolerant (handling : Handling) : TemperatureParams where
  limits := { upper := some ⟨.ofInt 30, .ofInt 60⟩ }
  handling := handling

theorem hotInlet_best_usr :
    let under (handling : Handling) := hotInlet.check (tolerant handling) "Inlet" ⟨0⟩ {}
    let undeclared (handling : Handling) :=
      hotInlet.unlimited.check (tolerant handling) "Inlet" ⟨0⟩ {}
    (tolerant .best).limits.isNone = false ∧ hotInlet.limits.isNone = false
      ∧ under .best = under .usr ∧ under .worst = under .dev
      ∧ (under .best).1.state ≤ (under .devdefault).1.state
      ∧ hotInlet.unlimited.limits.isNone ∧ undeclared .devdefault = undeclared .best := by
  intro under undeclared
  have ho : (tolerant .best).limits.isNone = false := rfl
  have hd : hotInlet.limits.isNone = false := rfl
  have hn : hotInlet.unlimited.limits.isNone := rfl
  have ⟨hb, hc, _⟩ := best_le_check_le_worst hotInlet (tolerant .best) "Inlet" ⟨0⟩ {}
  have ⟨_, _, hf⟩ := best_le_check_le_worst hotInlet.unlimited (tolerant .best) "Inlet" ⟨0⟩ {}
  have hbest := (hc ho hd).1
  have hworst := (hc ho hd).2
  rw [if_neg (by decide +kernel)] at hbest
  rw [if_pos (by decide +kernel)] at hworst
  exact ⟨ho, hd, hbest, hworst, (hb .devdefault (.inl rfl)).1, hn, hf (.inr hn) .devdefault rfl⟩

end TemperatureReading
end SensorWatch
