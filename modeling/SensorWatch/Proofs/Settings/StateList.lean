import Mathlib.Data.List.DropRight
import SensorWatch.Settings

namespace Except

variable {ε α β : Type} {f : α → Except ε Unit} {xs : List α} {e : ε}

theorem map_eq_error_iff {x : Except ε α} {g : α → β} : x.map g = .error e ↔ x = .error e := by
  cases x <;> simp [Except.map]

theorem bind_eq_error_iff {x : Except ε α} {g : α → Except ε β} :
    x >>= g = .error e ↔ x = .error e ∨ ∃ a, x = .ok a ∧ g a = .error e := by
  cases x <;> simp [bind, Except.bind]

theorem forM_eq_error_iff :
    forM xs f = .error e ↔
      ∃ before x after, xs = before ++ x :: after
        ∧ (∀ y ∈ before, f y = .ok ()) ∧ f x = .error e := by
  induction xs
  case nil => simp [pure, Except.pure]
  case cons x xs ih =>
    rw [List.forM_cons, bind_eq_error_iff, ih]
    constructor
    case mp =>
      rintro (h | ⟨_, h, before, y, after, rfl, hb, hy⟩)
      · exact ⟨[], x, xs, rfl, nofun, h⟩
      · exact ⟨x :: before, y, after, rfl, List.forall_mem_cons.mpr ⟨h, hb⟩, hy⟩
    case mpr =>
      rintro ⟨before, y, after, hx, hb, hy⟩
      cases before
      case nil =>
        cases hx
        exact .inl hy
      case cons =>
        cases hx
        have ⟨hx, hb⟩ := List.forall_mem_cons.mp hb
        exact .inr ⟨(), hx, _, y, after, rfl, hb, hy⟩

end Except

namespace SensorWatch

namespace Text

theorem core_core (cs : List Char) : core (core cs) = core cs := by
  have hc : core cs = (cs.dropWhile isBlank).rdropWhile isBlank := rfl
  have hd : (core cs).dropWhile isBlank = core cs := by
    have ⟨back, hb⟩ := List.rdropWhile_prefix isBlank (cs.dropWhile isBlank)
    have hn := List.head?_dropWhile_not isBlank cs
    rw [← hb, ← hc] at hn
    cases h : core cs
    case nil => rfl
    case cons c front =>
      have hn : isBlank c = false := by simpa [h] using hn
      simp [hn]
  calc core (core cs)
    _ = ((core cs).dropWhile isBlank).rdropWhile isBlank := rfl
    _ = core cs := by rw [hd, hc, List.rdropWhile_idempotent]

theorem strip_strip (s : String) : strip (strip s) = strip s := by
  simp only [strip, String.toList_ofList, core_core]

theorem pieces_eq_splitOn (sep : Char) (s : String) :
    pieces sep s = (s.toList.splitOn sep).map .ofList := by
  have hg (cs : List Char) : pieces.go sep cs = cs.splitOnP (· == sep) := by
    induction cs
    case nil => rfl
    case cons c cs ih =>
      have ⟨piece, pieces, hp⟩ := List.exists_cons_of_ne_nil (List.splitOnP_ne_nil (· == sep) cs)
      rw [List.splitOnP_cons_eq_if_modifyHead, hp, pieces.go, ih, hp]
      by_cases h : c = sep <;> simp [h]
  rw [pieces, hg, List.splitOn]

end Text

def AdminState.IsNamedBy (state : AdminState) (entry : String) : Prop :=
  Text.lower entry = state.name

theorem AdminState.ofName?_eq_some_iff {s : String} {state : AdminState} :
    ofName? s = some state ↔ state.IsNamedBy (Text.strip s) := by
  unfold ofName? IsNamedBy
  split <;> cases state <;> simp_all [name]

namespace AdminSet

def entries (s : String) : List String :=
  ((s.toList.splitOn ',').map fun piece => Text.strip (.ofList piece)).filter (· ≠ "")

theorem ofText_eq (s : String) : ofText s = ofText.go (entries s) {} := by
  have he : (fun entry : String => !entry.isEmpty) = fun entry => decide (entry ≠ "") := by
    funext entry
    rw [Bool.eq_iff_iff]
    simp
  rw [ofText, entries, Text.pieces_eq_splitOn, List.map_map, he]
  rfl

theorem ofName?_of_mem_entries {s entry : String} (h : entry ∈ entries s) (state : AdminState) :
    AdminState.ofName? entry = some state ↔ state.IsNamedBy entry := by
  have ⟨piece, _, he⟩ := List.mem_map.mp (List.mem_of_mem_filter h)
  rw [AdminState.ofName?_eq_some_iff, ← he, Text.strip_strip]

theorem ext_contains {set set' : AdminSet}
    (h : ∀ state, set.contains state = set'.contains state) : set = set' := by
  have hu := h .up
  have hd := h .down
  have ht := h .testing
  cases set
  cases set'
  simp_all [contains]

theorem go_eq_ok_iff {entries : List String} {set set' : AdminSet} :
    ofText.go entries set = .ok set' ↔
      (∀ entry ∈ entries, ∃ state, AdminState.ofName? entry = some state)
        ∧ ∀ state, set'.contains state ↔
            set.contains state ∨ ∃ entry ∈ entries, AdminState.ofName? entry = some state := by
  induction entries generalizing set
  case nil =>
    rw [ofText.go, Except.ok.injEq]
    constructor
    · rintro rfl
      simp
    · intro ⟨_, h⟩
      exact ext_contains fun state => Bool.eq_iff_iff.mpr (by simpa using (h state).symm)
  case cons entry entries ih =>
    rw [ofText.go]
    cases hn : AdminState.ofName? entry
    case none => simp [hn]
    case some named =>
      simp only [ih, contains_insert, List.forall_mem_cons, List.exists_mem_cons_iff, hn,
        Option.some.injEq, exists_eq', true_and, Bool.or_eq_true, beq_iff_eq]
      refine and_congr_right fun _ => forall_congr' fun state => ?_
      rw [or_assoc, or_left_comm]

def trial (entry : String) : Except SettingsFault Unit :=
  match AdminState.ofName? entry with
  | some _ => .ok ()
  | none => .error (.noState entry)

theorem trial_eq_ok_iff {entry : String} :
    trial entry = .ok () ↔ ∃ state, AdminState.ofName? entry = some state := by
  rw [trial]
  cases AdminState.ofName? entry <;> simp

theorem trial_eq_error_iff {entry : String} {fault : SettingsFault} :
    trial entry = .error fault ↔ AdminState.ofName? entry = none ∧ fault = .noState entry := by
  rw [trial]
  cases AdminState.ofName? entry <;> simp [eq_comm]

theorem map_go (entries : List String) (set : AdminSet) :
    (ofText.go entries set).map (fun _ => ()) = forM entries trial := by
  induction entries generalizing set
  case nil => rfl
  case cons entry entries ih =>
    rw [ofText.go, List.forM_cons, trial]
    cases AdminState.ofName? entry
    case none => rfl
    case some state => exact ih _

theorem ofText_eq_ok_iff {s : String} {set : AdminSet} :
    ofText s = .ok set ↔
      (∀ entry ∈ entries s, ∃ state : AdminState, state.IsNamedBy entry)
        ∧ ∀ state, set.contains state ↔ ∃ entry ∈ entries s, state.IsNamedBy entry := by
  rw [ofText_eq, go_eq_ok_iff]
  refine and_congr (forall₂_congr ?_) (forall_congr' ?_)
  · intro entry he
    simp only [ofName?_of_mem_entries he]
  · intro state
    have hc : contains {} state = false := by cases state <;> rfl
    rw [hc, Bool.false_eq_true, false_or]
    refine iff_congr Iff.rfl (exists_congr fun entry => and_congr_right ?_)
    intro he
    rw [ofName?_of_mem_entries he]

theorem ofText_eq_error_iff {s : String} {fault : SettingsFault} :
    ofText s = .error fault ↔
      ∃ before entry after, entries s = before ++ entry :: after
        ∧ (∀ e ∈ before, ∃ state : AdminState, state.IsNamedBy e)
        ∧ (∀ state : AdminState, ¬state.IsNamedBy entry) ∧ fault = .noState entry := by
  rw [ofText_eq, ← Except.map_eq_error_iff, map_go, Except.forM_eq_error_iff]
  refine exists₃_congr fun before entry after => and_congr_right fun hs => ?_
  have hn {e : String} (he : e ∈ before ++ entry :: after) (state : AdminState) :
      AdminState.ofName? e = some state ↔ state.IsNamedBy e :=
    ofName?_of_mem_entries (hs ▸ he) state
  refine and_congr (forall₂_congr ?_) ?_
  · intro e he
    simp only [trial_eq_ok_iff, hn (List.mem_append_left _ he)]
  · rw [trial_eq_error_iff, Option.eq_none_iff_forall_ne_some]
    simp only [ne_eq, hn (List.mem_append_right _ List.mem_cons_self)]

theorem exists_ofText_iff {s : String} :
    (∃ set, ofText s = .ok set) ↔
      ∀ entry ∈ entries s, ∃ state : AdminState, state.IsNamedBy entry := by
  constructor
  case mp =>
    intro ⟨set, h⟩
    exact (ofText_eq_ok_iff.mp h).1
  case mpr =>
    intro h
    cases hs : ofText s
    case ok set => exact ⟨set, rfl⟩
    case error =>
      have ⟨_, entry, _, he, _, hn, _⟩ := ofText_eq_error_iff.mp hs
      have ⟨state, hn'⟩ := h entry (he ▸ List.mem_append_right _ List.mem_cons_self)
      exact absurd hn' (hn state)

end AdminSet

end SensorWatch
