import Mathlib.Data.List.Induction
import SensorWatch.Proofs.Row
import SensorWatch.Section.Directory

namespace SensorWatch

def RowFault.of? {α : Type} : Except RowFault α → Option RowFault
  | .ok _ => none
  | .error fault => some fault

theorem RowFault.isSome_of? {α : Type} {outcome : Except RowFault α} :
    (of? outcome).isSome ↔ outcome.toOption = none := by
  cases outcome <;> simp [of?, Except.toOption]

namespace Logged

variable {α β σ : Type}

section

variable (read : α → Except RowFault β) (warning : α → RowFault → Warning) (xs : List α)

theorem value_collect :
    (collect read warning xs).value = xs.filterMap fun x => (read x).toOption := by
  induction xs
  case nil => rfl
  case cons x xs ih =>
    rw [collect]
    cases h : read x <;> simp [h, ih, Except.toOption]

theorem log_collect :
    (collect read warning xs).log
      = xs.filterMap fun x => (RowFault.of? (read x)).map (warning x) := by
  induction xs
  case nil => rfl
  case cons x xs ih =>
    rw [collect]
    cases h : read x <;> simp [h, ih, RowFault.of?]

end

variable (step : σ → α → Logged σ) (s : σ) (xs ys : List α) (x : α)

theorem value_foldlM :
    (xs.foldlM step s).value = xs.foldl (fun s x => (step s x).value) s := by
  induction xs generalizing s
  case nil => rfl
  case cons x xs ih => exact ih _

theorem value_foldlM_append_singleton :
    ((xs ++ [x]).foldlM step s).value = (step (xs.foldlM step s).value x).value := by
  simp only [value_foldlM, List.foldl_append, List.foldl_cons, List.foldl_nil]

-- What was logged on a run was logged in one of its steps, after those before it.
theorem mem_log_foldlM {w : Warning} :
    w ∈ (xs.foldlM step s).log ↔ ∃ before x after, xs = before ++ x :: after
      ∧ w ∈ (step (before.foldlM step s).value x).log := by
  induction xs generalizing s
  case nil => simp
  case cons x xs ih =>
    rw [List.foldlM_cons, log_bind, List.mem_append, ih]
    constructor
    · rintro (h | ⟨before, y, after, rfl, h⟩)
      · exact ⟨[], x, xs, rfl, h⟩
      · exact ⟨x :: before, y, after, rfl, h⟩
    · rintro ⟨before, y, after, hx, h⟩
      cases before
      case nil =>
        cases hx
        exact .inl h
      case cons z before =>
        cases hx
        exact .inr ⟨before, y, after, rfl, h⟩

end Logged

variable {α : Type} (read : List String → Except RowFault α) (rows : List (List String))

theorem value_readRows : (readRows read rows).value = readable read rows :=
  Logged.value_collect ..

theorem log_readRows :
    (readRows read rows).log
      = rows.filterMap fun row => (RowFault.of? (read row)).map (.skippedRow row) :=
  Logged.log_collect ..

end SensorWatch
