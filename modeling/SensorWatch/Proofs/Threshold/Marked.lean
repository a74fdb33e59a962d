import Mathlib.Data.List.Induction
import SensorWatch.Proofs.Threshold.Guessed

namespace SensorWatch

def Limits.on (limits : Limits) : Side → Option Levels
  | .upper => limits.upper
  | .lower => limits.lower

def Side.relation : Side → Relation
  | .upper => .greaterOrEqual
  | .lower => .lessThan

namespace Threshold

def marks (relation : Relation) (t : Threshold) : Bool :=
  t.isGraded && t.relation = some relation

def last? (severity : Severity) (relation : Relation) (ts : List Threshold) : Option Binary64 :=
  (ts.filter fun t => t.severity = some severity && t.relation = some relation).getLast?.map
    (·.value)

-- The critical value of a relation is the last major one, or else the last critical one.
def crit? (relation : Relation) (ts : List Threshold) : Option Binary64 :=
  (last? .major relation ts).or (last? .critical relation ts)

-- The value to warn at is the last minor one, or else the critical one.
def warn? (relation : Relation) (ts : List Threshold) : Option Binary64 :=
  (last? .minor relation ts).or (crit? relation ts)

section

variable {relation : Relation} {ts ts' : List Threshold}

theorem last?_append (severity : Severity) (t : Threshold) :
    last? severity relation (ts ++ [t])
      = (if t.severity = some severity ∧ t.relation = some relation then some t.value else none).or
          (last? severity relation ts) := by
  by_cases h : t.severity = some severity ∧ t.relation = some relation <;>
    simp [last?, List.filter_append, h]

theorem exists_of_last? {severity : Severity} {value : Binary64}
    (h : last? severity relation ts = some value) : ∃ t ∈ ts, value = t.value := by
  have ⟨t, ht, hv⟩ := Option.map_eq_some_iff.mp h
  exact ⟨t, List.mem_of_mem_filter (List.mem_of_getLast? ht), hv.symm⟩

theorem exists_of_crit? {value : Binary64} (h : crit? relation ts = some value) :
    ∃ t ∈ ts, value = t.value := by
  rcases Option.or_eq_some_iff.mp h with h | ⟨_, h⟩
  all_goals exact exists_of_last? h

theorem exists_of_warn? {value : Binary64} (h : warn? relation ts = some value) :
    ∃ t ∈ ts, value = t.value := by
  rcases Option.or_eq_some_iff.mp h with h | ⟨_, h⟩
  case inl => exact exists_of_last? h
  case inr => exact exists_of_crit? h

-- What is on record after any thresholds are the last values of each severity.
theorem foldl_record : (ts.filter (·.relation = some relation)).foldl Grades.record {}
    = ⟨last? .minor relation ts, last? .major relation ts, last? .critical relation ts⟩ := by
  induction ts using List.reverseRecOn
  case nil => rfl
  case append_singleton ts t ih =>
    simp only [last?_append]
    by_cases hr : t.relation = some relation
    case neg => simp [hr, ih]
    case pos =>
      obtain ⟨severity, _, _⟩ := t
      rcases severity with _ | _ | _ | _ | _ <;> simp_all [Grades.record]

theorem marked?_eq_some_iff {factor : Binary64} {levels : Levels} :
    marked? relation factor ts = some levels ↔
      ∃ warn crit, warn? relation ts = some warn ∧ crit? relation ts = some crit
        ∧ levels = ⟨warn * factor, crit * factor⟩ := by
  rw [marked?, foldl_record, Grades.levels?, Option.orElse_eq_orElse, Option.orElse_eq_or,
    Option.map_eq_some_iff]
  constructor
  case mp =>
    intro ⟨crit, hc, hl⟩
    exact ⟨_, crit, by rw [warn?, crit?, hc, Option.or_some], hc, hl.symm⟩
  case mpr =>
    intro ⟨warn, crit, hw, hc, hl⟩
    rw [warn?, hc, Option.or_some, Option.some.injEq] at hw
    exact ⟨crit, hc, by rw [hl, hw]⟩

theorem marked?_congr
    (h : ∀ severity, severity ≠ .other → last? severity relation ts = last? severity relation ts')
    (factor : Binary64) : marked? relation factor ts = marked? relation factor ts' := by
  rw [marked?, marked?, foldl_record, foldl_record, h .minor nofun, h .major nofun,
    h .critical nofun]

theorem last?_filter_marks {severity : Severity} (hs : severity ≠ .other) (ts : List Threshold) :
    last? severity relation (ts.filter (marks relation)) = last? severity relation ts := by
  have hm (t : Threshold) : (t.severity = some severity && t.relation = some relation)
      → marks relation t := by
    cases severity <;> simp_all [marks, isGraded]
  rw [last?, last?, List.filter_filter]
  congr! 3
  funext t
  rw [Bool.and_eq_left_iff_imp]
  exact hm t

theorem marked?_eq_of_marks (h : ts.filter (marks relation) = ts'.filter (marks relation))
    (factor : Binary64) : marked? relation factor ts = marked? relation factor ts' := by
  refine marked?_congr ?_ factor
  intro severity hs
  rw [← last?_filter_marks hs, h, last?_filter_marks hs]

end

variable {factor : Binary64} {ts : List Threshold}

theorem limits_of_isGraded (h : ts.any isGraded) (side : Side) :
    (limits .celsius factor ts).on side = marked? side.relation factor ts := by
  rw [limits, if_pos h]
  cases side <;> rfl

theorem limits_of_isGraded_eq_false (h : ts.any isGraded = false) :
    limits .celsius factor ts = guessed factor (ts.filter (·.severity = some .other)) := by
  rw [limits, h]
  rfl

-- Where a level is marked, the levels of a side are those that the last thresholds of its relation
-- mark; what else is on the list, and in which order, is all the same. Where none is marked the
-- limits are guessed from the thresholds of no particular severity.
theorem marks_decide_limits (factor : Binary64) (ts : List Threshold) :
    (ts.any isGraded → ∀ side levels,
        (limits .celsius factor ts).on side = some levels ↔
          ∃ warn crit, warn? side.relation ts = some warn ∧ crit? side.relation ts = some crit
            ∧ levels = ⟨warn * factor, crit * factor⟩)
      ∧ (∀ ts' : List Threshold, ts.any isGraded → ts'.any isGraded → ∀ side : Side,
          ts.filter (marks side.relation) = ts'.filter (marks side.relation) →
            (limits .celsius factor ts).on side = (limits .celsius factor ts').on side)
      ∧ (ts.any isGraded = false →
          limits .celsius factor ts = guessed factor (ts.filter (·.severity = some .other))) := by
  refine ⟨?levels, ?marks, limits_of_isGraded_eq_false⟩
  case levels =>
    intro h side levels
    rw [limits_of_isGraded h, marked?_eq_some_iff]
  case marks =>
    intro ts' h h' side hm
    rw [limits_of_isGraded h, limits_of_isGraded h', marked?_eq_of_marks hm]

def inletThresholds : List Threshold :=
  [⟨some .minor, some .greaterOrEqual, .ofInt 25⟩, ⟨some .major, some .greaterOrEqual, .ofInt 40⟩,
    ⟨some .other, some .greaterOrEqual, .ofInt 99⟩,
    ⟨some .critical, some .greaterOrEqual, .ofInt 60⟩,
    ⟨some .minor, some .greaterOrEqual, .ofInt 30⟩, ⟨some .major, some .greaterThan, .ofInt 35⟩,
    ⟨some .critical, some .lessThan, .ofInt 2⟩]

def inletMarks : List Threshold :=
  [⟨some .critical, some .lessThan, .ofInt 2⟩, ⟨some .minor, some .greaterOrEqual, .ofInt 25⟩,
    ⟨some .major, some .greaterOrEqual, .ofInt 40⟩,
    ⟨some .critical, some .greaterOrEqual, .ofInt 60⟩,
    ⟨some .minor, some .greaterOrEqual, .ofInt 30⟩, ⟨some .other, none, .ofInt 7⟩]

def plainThresholds : List Threshold :=
  [⟨some .other, some .greaterOrEqual, .ofInt 70⟩, ⟨none, some .greaterOrEqual, .ofInt 99⟩,
    ⟨some .other, some .greaterOrEqual, .ofInt 60⟩]

theorem inletThresholds_limits :
    inletThresholds.any isGraded ∧ inletMarks.any isGraded
      ∧ inletThresholds.filter (marks .greaterOrEqual) = inletMarks.filter (marks .greaterOrEqual)
      ∧ (limits .celsius (.ofInt 10) inletThresholds).upper = some ⟨.ofInt 300, .ofInt 400⟩
      ∧ (limits .celsius (.ofInt 10) inletThresholds).lower = some ⟨.ofInt 20, .ofInt 20⟩
      ∧ (limits .celsius (.ofInt 10) inletMarks).upper = some ⟨.ofInt 300, .ofInt 400⟩
      ∧ plainThresholds.any isGraded = false
      ∧ limits .celsius (.ofInt 1) plainThresholds = { upper := some ⟨.ofInt 60, .ofInt 70⟩ } := by
  have h : inletThresholds.any isGraded := by decide +kernel
  have h' : inletMarks.any isGraded := by decide +kernel
  have hp : plainThresholds.any isGraded = false := by decide +kernel
  have hm : inletThresholds.filter (marks .greaterOrEqual)
      = inletMarks.filter (marks .greaterOrEqual) := by decide +kernel
  have ⟨hl, hs, _⟩ := marks_decide_limits (.ofInt 10) inletThresholds
  have ⟨_, _, hg⟩ := marks_decide_limits (.ofInt 1) plainThresholds
  have hu := (hl h .upper ⟨.ofInt 300, .ofInt 400⟩).mpr
    ⟨.ofInt 30, .ofInt 40, by decide +kernel, by decide +kernel, by decide +kernel⟩
  have hd := (hl h .lower ⟨.ofInt 20, .ofInt 20⟩).mpr
    ⟨.ofInt 2, .ofInt 2, by decide +kernel, by decide +kernel, by decide +kernel⟩
  exact ⟨h, h', hm, hu, hd, (hs inletMarks h h' .upper hm).symm.trans hu, hp,
    (hg hp).trans (guessed_eq_of_guess (by decide +kernel))⟩

end Threshold
end SensorWatch
