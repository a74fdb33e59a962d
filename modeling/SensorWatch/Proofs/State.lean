import Mathlib.Order.Lattice
import SensorWatch.State

namespace SensorWatch.State

instance : LinearOrder State :=
  LinearOrder.lift' badness fun s t => s.eq_of_badness_eq t

theorem worst_eq_max (s t : State) : s.worst t = max s t := by
  cases s <;> cases t <;> rfl

theorem badness_lt_iff {s t : State} : s.badness < t.badness ↔ s < t :=
  Iff.rfl

theorem name_inj {s t : State} : s.name = t.name ↔ s = t := by
  cases s <;> cases t <;> decide

theorem best_eq_left_iff {s t : State} : s.best t = s ↔ s.badness ≤ t.badness := by
  have hb := badness_best s t
  constructor
  · intro h
    rw [h] at hb
    omega
  · intro h
    exact eq_of_badness_eq _ _ (hb.trans (Nat.min_eq_left h))

theorem worst_eq_left_iff {s t : State} : s.worst t = s ↔ t.badness ≤ s.badness := by
  have hb := badness_worst s t
  constructor
  · intro h
    rw [h] at hb
    omega
  · intro h
    exact eq_of_badness_eq _ _ (hb.trans (Nat.max_eq_left h))

theorem crit_le_iff {s : State} : .crit ≤ s ↔ s = .crit := by
  cases s <;> decide

end SensorWatch.State
