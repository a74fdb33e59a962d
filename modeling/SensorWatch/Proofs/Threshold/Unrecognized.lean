import SensorWatch.Proofs.Threshold.Marked

namespace SensorWatch

theorem Limits.ext_on {limits limits' : Limits} (h : ∀ side, limits.on side = limits'.on side) :
    limits = limits' := by
  cases limits
  cases limits'
  rw [mk.injEq]
  exact ⟨h .upper, h .lower⟩

namespace Threshold

def isRecognized (t : Threshold) : Bool :=
  t.severity.isSome && t.relation.isSome

theorem isSome_severity {t : Threshold} (h : t.isGraded) : t.severity.isSome := by
  obtain ⟨severity, _, _⟩ := t
  cases severity
  case none => simp [isGraded] at h
  case some => rfl

section

variable {factor : Binary64} {ts : List Threshold} {p : Threshold → Bool}

-- Thresholds can be left out as long as all marks of the two sides stay, at least one mark if there
-- is any, and where there is none all thresholds of no particular severity.
theorem limits_filter (hm : ∀ t ∈ ts, ∀ side : Side, marks side.relation t → p t)
    (hg : ts.any isGraded → (ts.filter p).any isGraded)
    (ho : ts.any isGraded = false → ∀ t ∈ ts, t.severity = some .other → p t) :
    limits .celsius factor (ts.filter p) = limits .celsius factor ts := by
  have keep {q : Threshold → Bool} (h : ∀ t ∈ ts, q t → p t) :
      (ts.filter p).filter q = ts.filter q := by
    rw [List.filter_filter]
    refine List.filter_congr ?_
    intro t ht
    cases hq : q t
    case false => rfl
    case true => rw [h t ht hq, Bool.and_true]
  cases h : ts.any isGraded
  case true =>
    refine Limits.ext_on ?_
    intro side
    rw [limits_of_isGraded (hg h), limits_of_isGraded h]
    exact marked?_eq_of_marks (keep fun t ht => hm t ht side) factor
  case false =>
    have hp : (ts.filter p).any isGraded = false := by
      rw [List.any_eq_false] at h ⊢
      intro t ht
      exact h t (List.mem_of_mem_filter ht)
    rw [limits_of_isGraded_eq_false hp, limits_of_isGraded_eq_false h, keep]
    intro t ht hs
    exact ho h t ht (of_decide_eq_true hs)

theorem limits_filter_isSome_severity :
    limits .celsius factor (ts.filter (·.severity.isSome)) = limits .celsius factor ts := by
  refine limits_filter ?marks ?graded ?other
  case marks =>
    intro t _ side ht
    exact isSome_severity (Bool.and_eq_true_iff.mp ht).1
  case graded =>
    simp only [List.any_eq_true, List.mem_filter]
    intro ⟨t, ht, hg⟩
    exact ⟨t, ⟨ht, isSome_severity hg⟩, hg⟩
  case other =>
    intro _ t _ hs
    rw [hs, Option.isSome_some]

theorem limits_filter_isRecognized (h : ∃ t ∈ ts, t.isGraded ∧ t.relation.isSome) :
    limits .celsius factor (ts.filter isRecognized) = limits .celsius factor ts := by
  obtain ⟨u, hu, hg, hr⟩ := h
  refine limits_filter ?marks ?graded ?other
  case marks =>
    intro t _ side ht
    simp only [marks, Bool.and_eq_true, decide_eq_true_eq] at ht
    rw [isRecognized, isSome_severity ht.1, ht.2]
    rfl
  case graded =>
    intro _
    have hk : u.isRecognized := by rw [isRecognized, isSome_severity hg, hr, Bool.and_self]
    exact List.any_eq_true.mpr ⟨u, List.mem_filter.mpr ⟨hu, hk⟩, hg⟩
  case other =>
    intro hn
    exact absurd (List.any_eq_true.mpr ⟨u, hu, hg⟩) (by simp [hn])

theorem limits_eq_empty (h : ∃ t ∈ ts, t.isGraded)
    (hn : ∀ t ∈ ts, t.isGraded → t.relation = none) : limits .celsius factor ts = {} := by
  refine Limits.ext_on ?_
  intro side
  have hf : ts.filter (marks side.relation) = [].filter (marks side.relation) := by
    rw [List.filter_nil, List.filter_eq_nil_iff]
    intro t ht hm
    simp only [marks, Bool.and_eq_true, decide_eq_true_eq] at hm
    rw [hn t ht hm.1] at hm
    cases hm.2
  rw [limits_of_isGraded (List.any_eq_true.mpr h), marked?_eq_of_marks hf]
  cases side <;> rfl

end

-- A threshold of unknown severity can be left out, and so can one of unknown relation, as long as
-- some mark has a known relation or no known severity goes with an unknown relation. Otherwise the
-- known severities of such thresholds show: they leave no levels where they are the only marks, and
-- where there are no marks they are among the values that the limits are guessed from.
theorem limits_without_unrecognized (factor : Binary64) (ts : List Threshold) :
    limits .celsius factor (ts.filter (·.severity.isSome)) = limits .celsius factor ts
      ∧ ((∃ t ∈ ts, t.isGraded ∧ t.relation.isSome)
            ∨ (∀ t ∈ ts, t.severity.isSome → t.relation.isSome) →
          limits .celsius factor (ts.filter isRecognized) = limits .celsius factor ts)
      ∧ ((∃ t ∈ ts, t.isGraded) → (∀ t ∈ ts, t.isGraded → t.relation = none) →
          limits .celsius factor ts = {})
      ∧ ((∀ t ∈ ts, t.isGraded = false) →
          limits .celsius factor ts = guessed factor (ts.filter (·.severity = some .other))) := by
  refine ⟨limits_filter_isSome_severity, ?recognized, limits_eq_empty, ?guessed⟩
  case recognized =>
    intro h
    rcases h with h | h
    case inl => exact limits_filter_isRecognized h
    case inr =>
      have hf : ts.filter isRecognized = ts.filter (·.severity.isSome) := by
        refine List.filter_congr ?_
        intro t ht
        rw [isRecognized, Bool.and_eq_left_iff_imp]
        exact h t ht
      rw [hf, limits_filter_isSome_severity]
  case guessed =>
    intro h
    exact limits_of_isGraded_eq_false (by simpa using h)

def codedInlet : List Threshold :=
  [⟨some .minor, some .greaterOrEqual, .ofInt 30⟩, ⟨some .major, some .greaterOrEqual, .ofInt 40⟩,
    ⟨some .major, none, .ofInt 35⟩, ⟨none, some .greaterOrEqual, .ofInt 99⟩]

def codedOutlet : List Threshold :=
  [⟨some .minor, none, .ofInt 30⟩, ⟨some .other, some .greaterOrEqual, .ofInt 70⟩,
    ⟨some .other, some .greaterOrEqual, .ofInt 60⟩]

def codedChassis : List Threshold :=
  [⟨some .other, some .greaterOrEqual, .ofInt 70⟩, ⟨some .other, none, .ofInt 60⟩]

theorem codedInlet_limits :
    (∃ t ∈ codedInlet, t.isGraded ∧ t.relation.isSome)
      ∧ limits .celsius (.ofInt 1) (codedInlet.filter isRecognized)
          = limits .celsius (.ofInt 1) codedInlet
      ∧ (∃ t ∈ codedOutlet, t.isGraded) ∧ (∀ t ∈ codedOutlet, t.isGraded → t.relation = none)
      ∧ limits .celsius (.ofInt 1) codedOutlet = {}
      ∧ (∀ t ∈ codedChassis, t.isGraded = false)
      ∧ limits .celsius (.ofInt 1) codedChassis = { upper := some ⟨.ofInt 60, .ofInt 70⟩ } := by
  have hi : ∃ t ∈ codedInlet, t.isGraded ∧ t.relation.isSome := by decide +kernel
  have ho : ∃ t ∈ codedOutlet, t.isGraded := by decide +kernel
  have hn : ∀ t ∈ codedOutlet, t.isGraded → t.relation = none := by decide +kernel
  have hc : ∀ t ∈ codedChassis, t.isGraded = false := by decide +kernel
  have ⟨_, hr, _⟩ := limits_without_unrecognized (.ofInt 1) codedInlet
  have ⟨_, _, he, _⟩ := limits_without_unrecognized (.ofInt 1) codedOutlet
  have ⟨_, _, _, hg⟩ := limits_without_unrecognized (.ofInt 1) codedChassis
  exact ⟨hi, hr (.inl hi), ho, hn, he ho hn, hc,
    (hg hc).trans (guessed_eq_of_guess (by decide +kernel))⟩

-- Where limits are guessed, a threshold counts although its relation is unknown.
theorem not_forall_limits_filter_isRecognized :
    ¬∀ (factor : Binary64) (ts : List Threshold),
      limits .celsius factor (ts.filter isRecognized) = limits .celsius factor ts := by
  intro h
  have hr : limits .celsius (.ofInt 1) (codedChassis.filter isRecognized) = {} := by
    rw [limits_of_isGraded_eq_false (by decide +kernel)]
    exact guessed_eq_of_guess (by decide +kernel)
  have hc : limits .celsius (.ofInt 1) codedChassis = { upper := some ⟨.ofInt 60, .ofInt 70⟩ } := by
    rw [limits_of_isGraded_eq_false (by decide +kernel)]
    exact guessed_eq_of_guess (by decide +kernel)
  rw [h, hc] at hr
  cases hr

end Threshold
end SensorWatch
