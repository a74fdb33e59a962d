import SensorWatch.Check.Temperature
import SensorWatch.Proofs.State

namespace SensorWatch

namespace Limits

variable {limits others : Limits}

def orElse (limits others : Limits) : Limits :=
  if limits.isNone then others else limits

theorem eq_empty_of_isNone (h : limits.isNone) : limits = {} := by
  rw [isNone, Bool.and_eq_true, Option.isNone_iff_eq_none, Option.isNone_iff_eq_none] at h
  cases limits
  cases h.1
  cases h.2
  rfl

theorem orElse_of_isNone (h : limits.isNone) : limits.orElse others = others :=
  if_pos h

theorem orElse_of_isNone_eq_false (h : limits.isNone = false) : limits.orElse others = limits :=
  if_neg (by simp [h])

theorem orElse_comm (h : limits.isNone ∨ others.isNone) :
    limits.orElse others = others.orElse limits := by
  cases hl : limits.isNone
  case true =>
    rw [orElse_of_isNone hl]
    cases ho : others.isNone
    case true  => rw [orElse_of_isNone ho, eq_empty_of_isNone hl, eq_empty_of_isNone ho]
    case false => rw [orElse_of_isNone_eq_false ho]
  case false =>
    have ho : others.isNone := h.resolve_left (by simp [hl])
    rw [orElse_of_isNone_eq_false hl, orElse_of_isNone ho]

end Limits

namespace Handling

-- The limits that decide about a value. Limits with levels on no side never stand against others.
-- Between limits that agree about the value, the operator's count.
def pick (handling : Handling) (operator device : Limits) (value : Binary64) : Limits :=
  let deviceIfBetter (better : State → State → Bool) : Limits :=
    if device.isNone then operator
    else if operator.isNone || better (device.state value) (operator.state value) then device
    else operator
  match handling with
  | usr => operator
  | dev => device
  | usrdefault => operator.orElse device
  | devdefault => device.orElse operator
  | best => deviceIfBetter fun d o => d.badness < o.badness
  | worst => deviceIfBetter fun d o => o.badness < d.badness

-- To choose between two comparisons comes to the same as to compare with the limits that decide.
theorem choose_comparison? (handling : Handling) (operator device : Limits)
    (render : Binary64 → String) (value : Binary64) :
    (handling.choose (operator.comparison? render value) (device.comparison? render value)).getD {}
      = (handling.pick operator device value).comparison render value := by
  have hn {limits : Limits} (h : limits.isNone) : limits.comparison render value = {} :=
    Limits.eq_empty_of_isNone h ▸ rfl
  cases ho : operator.isNone <;> cases hd : device.isNone
  case false.false =>
    cases handling
    case best | worst =>
      simp only [choose, choose.joined, pick, Limits.comparison?, ho, hd, Bool.false_eq_true,
        Bool.false_or, if_false, decide_eq_true_eq, State.best_eq_left_iff, State.worst_eq_left_iff,
        Limits.comparison, Option.getD_some, ← Nat.not_lt, ite_not]
      split <;> rfl
    all_goals simp [choose, pick, Limits.orElse, Limits.comparison?, ho, hd]
  all_goals
    cases handling <;>
      simp [choose, choose.joined, pick, Limits.orElse, Limits.comparison?, ho, hd, hn]

end Handling

namespace TemperatureReading

variable (r : TemperatureReading) (params : TemperatureParams)

def decisive : Limits :=
  params.handling.pick params.limits r.limits r.value

theorem comparison_eq :
    r.comparison params = (r.decisive params).comparison params.unit.render r.value :=
  params.handling.choose_comparison? ..

end TemperatureReading
end SensorWatch
