namespace SensorWatch

inductive State where
  | ok
  | warn
  | crit
  | unknown
  deriving DecidableEq

namespace State

def name : State → String
  | ok => "OK"
  | warn => "WARN"
  | crit => "CRIT"
  | unknown => "UNKNOWN"

def all : List State :=
  [ok, warn, crit, unknown]

def badness : State → Nat
  | ok => 0
  | warn => 1
  | unknown => 2
  | crit => 3

variable (s t : State)

def worst : State :=
  if s.badness < t.badness then t else s

def best : State :=
  if t.badness < s.badness then t else s

theorem badness_worst : (s.worst t).badness = max s.badness t.badness := by
  simp only [worst]
  split <;> omega

theorem badness_best : (s.best t).badness = min s.badness t.badness := by
  simp only [best]
  split <;> omega

theorem eq_of_badness_eq (h : s.badness = t.badness) : s = t := by
  cases s <;> cases t <;> simp_all [badness]

end State
end SensorWatch
