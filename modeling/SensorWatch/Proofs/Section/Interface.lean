import SensorWatch.Proofs.ByName
import SensorWatch.Section.Directory

namespace SensorWatch

namespace Text

variable {a b : String}

theorem exists_append_of_isPrefix (h : a.toList <+: b.toList) : ∃ rest, b = a ++ rest := by
  have ⟨rest, hr⟩ := h
  refine ⟨.ofList rest, String.toList_inj.mp ?_⟩
  rw [← hr, String.toList_append, String.toList_ofList]

theorem utf8ByteSize_le_of_isPrefix (h : a.toList <+: b.toList) :
    a.utf8ByteSize ≤ b.utf8ByteSize := by
  obtain ⟨rest, rfl⟩ := exists_append_of_isPrefix h
  rw [String.utf8ByteSize_append]
  exact Nat.le_add_right ..

theorem eq_of_isPrefix_of_utf8ByteSize_le (h : a.toList <+: b.toList)
    (hb : b.utf8ByteSize ≤ a.utf8ByteSize) : a = b := by
  obtain ⟨rest, rfl⟩ := exists_append_of_isPrefix h
  rw [String.utf8ByteSize_append] at hb
  have hr : rest = "" := String.utf8ByteSize_eq_zero_iff.mp (by omega)
  rw [hr, String.append_empty]

variable {text : List Char} (ha : a.toList <+: text) (hb : b.toList <+: text)

include ha hb

-- Of the beginnings of one text each has its own number of bytes, and the longer one has more.
theorem eq_of_isPrefix_of_utf8ByteSize_eq (h : a.utf8ByteSize = b.utf8ByteSize) : a = b := by
  rcases List.prefix_or_prefix_of_prefix ha hb with hp | hp
  case inl => exact eq_of_isPrefix_of_utf8ByteSize_le hp h.ge
  case inr => exact (eq_of_isPrefix_of_utf8ByteSize_le hp h.le).symm

theorem length_le_iff_of_isPrefix : a.length ≤ b.length ↔ a.utf8ByteSize ≤ b.utf8ByteSize := by
  rw [← String.length_toList, ← String.length_toList]
  rcases List.prefix_or_prefix_of_prefix ha hb with h | h
  case inl => exact iff_of_true h.length_le (utf8ByteSize_le_of_isPrefix h)
  case inr =>
    constructor
    · intro hl
      rw [String.toList_inj.mp (h.eq_of_length_le hl)]
    · intro hl
      rw [eq_of_isPrefix_of_utf8ByteSize_le h hl]

end Text

namespace Directory

structure Leads (rows : List InterfaceRow) (best : InterfaceRow) : Prop where
  mem : best ∈ rows
  size_le : ∀ row ∈ rows, row.name.utf8ByteSize ≤ best.name.utf8ByteSize

theorem exists_leads {rows : List InterfaceRow} (h : rows ≠ []) :
    ∃ best, rows.foldl longer none = some best ∧ Leads rows best := by
  induction rows using List.reverseRecOn
  case nil => exact absurd rfl h
  case append_singleton rows row ih =>
    rw [List.foldl_append, List.foldl_cons, List.foldl_nil]
    by_cases hr : rows = []
    case pos => exact ⟨row, by rw [hr]; rfl, ⟨by simp, by simp [hr]⟩⟩
    case neg =>
      have ⟨best, hf, hb⟩ := ih hr
      rw [hf, longer]
      split
      case isTrue hl =>
        refine ⟨best, rfl, List.mem_append_left _ hb.mem, ?_⟩
        exact List.forall_mem_append.mpr
          ⟨hb.size_le, List.forall_mem_singleton.mpr (Nat.le_of_lt hl)⟩
      case isFalse hl =>
        refine ⟨row, rfl, by simp, ?_⟩
        refine List.forall_mem_append.mpr ⟨?_, List.forall_mem_singleton.mpr (Nat.le_refl _)⟩
        intro row' hr
        exact Nat.le_trans (hb.size_le row' hr) (Nat.le_of_not_lt hl)

variable {dir dir' : Directory} {id description name : String} {row : InterfaceRow}

def row? (dir : Directory) (name : String) : Option InterfaceRow :=
  (dir.interfaces.filter (·.name = name)).getLast?

theorem mem_of_row? (h : dir.row? name = some row) : row ∈ dir.interfaces ∧ row.name = name := by
  have hm := List.mem_filter.mp (List.mem_of_getLast? h)
  exact ⟨hm.1, of_decide_eq_true hm.2⟩

theorem exists_row? (h : row ∈ dir.interfaces) : ∃ row', dir.row? row.name = some row' := by
  have hm : row ∈ dir.interfaces.filter (·.name = row.name) :=
    List.mem_filter.mpr ⟨h, decide_eq_true rfl⟩
  exact ⟨_, List.getLast?_eq_some_getLast (List.ne_nil_of_mem hm)⟩

theorem getElem?_named : dir.named[name]? = if name = "" then none else dir.row? name := by
  have hf : (dir.interfaces.filter (!·.name.isEmpty)).filter (·.name = name)
      = if name = "" then [] else dir.interfaces.filter (·.name = name) := by
    rw [List.filter_filter]
    split
    case isTrue hn => simp [List.filter_eq_nil_iff, hn]
    case isFalse hn =>
      refine List.filter_congr ?_
      intro row _
      by_cases hr : row.name = name <;> simp [hr, hn]
  simp only [named, ByName.getElem?_ofPairs, List.filter_map, List.getLast?_map, Option.map_map,
    Function.comp_def, hf]
  split <;> simp [row?]

structure Longest (dir : Directory) (description name : String) : Prop where
  ne_empty : name ≠ ""
  isPrefix : name.toList <+: description.toList
  exists_row : ∃ row ∈ dir.interfaces, row.name = name
  length_le : ∀ row ∈ dir.interfaces, row.name.toList <+: description.toList →
    row.name.length ≤ name.length

instance (dir : Directory) (description name : String) : Decidable (dir.Longest description name) :=
  decidable_of_iff
    (name ≠ "" ∧ name.toList <+: description.toList ∧ (∃ row ∈ dir.interfaces, row.name = name)
      ∧ ∀ row ∈ dir.interfaces, row.name.toList <+: description.toList →
          row.name.length ≤ name.length)
    ⟨fun ⟨hn, hp, hr, hl⟩ => ⟨hn, hp, hr, hl⟩, fun ⟨hn, hp, hr, hl⟩ => ⟨hn, hp, hr, hl⟩⟩

-- The rows that are asked for a description: the last one of every interface whose name it starts
-- with.
theorem mem_filter_isOn :
    row ∈ dir.named.values.filter (isOn description) ↔
      row.name ≠ "" ∧ row.name.toList <+: description.toList ∧ dir.row? row.name = some row := by
  simp only [List.mem_filter, ByName.mem_values_iff, getElem?_named, isOn,
    List.isPrefixOf_iff_prefix, Option.ite_none_left_eq_some]
  constructor
  · intro ⟨⟨name, hn, hr⟩, hp⟩
    obtain rfl := (mem_of_row? hr).2
    exact ⟨hn, hp, hr⟩
  · intro ⟨hn, hp, hr⟩
    exact ⟨⟨row.name, hn, hr⟩, hp⟩

theorem interface?_eq_some_iff :
    dir.interface? description = some row ↔
      dir.Longest description row.name ∧ dir.row? row.name = some row := by
  constructor
  · intro h
    have hne : dir.named.values.filter (isOn description) ≠ [] := by
      intro hn
      rw [interface?, hn] at h
      cases h
    have ⟨best, hf, hb⟩ := exists_leads hne
    obtain rfl : best = row := Option.some.inj (hf.symm.trans h)
    have ⟨hn, hp, hr⟩ := mem_filter_isOn.mp hb.mem
    refine ⟨⟨hn, hp, ⟨best, (mem_of_row? hr).1, rfl⟩, ?_⟩, hr⟩
    intro row hm hp'
    by_cases hn' : row.name = ""
    case pos => simp [hn']
    case neg =>
      have ⟨last, hl⟩ := exists_row? hm
      have hln : last.name = row.name := (mem_of_row? hl).2
      rw [← hln] at hn' hp' hl ⊢
      rw [Text.length_le_iff_of_isPrefix hp' hp]
      exact hb.size_le last (mem_filter_isOn.mpr ⟨hn', hp', hl⟩)
  · intro ⟨hl, hr⟩
    have hm := mem_filter_isOn.mpr ⟨hl.ne_empty, hl.isPrefix, hr⟩
    have ⟨best, hf, hb⟩ := exists_leads (List.ne_nil_of_mem hm)
    have ⟨_, hp, hr'⟩ := mem_filter_isOn.mp hb.mem
    have hs : best.name.utf8ByteSize ≤ row.name.utf8ByteSize :=
      (Text.length_le_iff_of_isPrefix hp hl.isPrefix).mp (hl.length_le best (mem_of_row? hr').1 hp)
    have hn := Text.eq_of_isPrefix_of_utf8ByteSize_eq hp hl.isPrefix
      (Nat.le_antisymm hs (hb.size_le row hm))
    rw [hn, hr] at hr'
    rw [interface?, hf, ← hr']

theorem adminState?_eq_some_iff {state : AdminState} :
    dir.adminState? id = some state ↔
      ∃ description name row, dir.names[id]? = some description ∧ dir.Longest description name
        ∧ dir.row? name = some row ∧ AdminState.ofCode? row.code = some state := by
  simp only [adminState?, Option.bind_eq_bind, Option.bind_eq_some_iff, interface?_eq_some_iff]
  constructor
  · intro ⟨description, hd, row, ⟨hl, hr⟩, hs⟩
    exact ⟨description, row.name, row, hd, hl, hr, hs⟩
  · intro ⟨description, name, row, hd, hl, hr, hs⟩
    obtain rfl := (mem_of_row? hr).2
    exact ⟨description, hd, row, ⟨hl, hr⟩, hs⟩

theorem adminState?_eq_none (hd : dir.names[id]? = some description)
    (hl : dir.Longest description name) (hr : dir.row? name = some row)
    (hc : AdminState.ofCode? row.code = none) : dir.adminState? id = none := by
  obtain rfl := (mem_of_row? hr).2
  have hi := interface?_eq_some_iff.mpr ⟨hl, hr⟩
  rw [adminState?, Option.bind_eq_bind, hd, Option.bind_some, hi]
  exact hc

-- Directories that list the same rows of every interface, in whatever order the interfaces come.
def SameRows (dir dir' : Directory) : Prop :=
  ∀ name : String, dir.interfaces.filter (·.name = name) = dir'.interfaces.filter (·.name = name)

theorem sameRows_iff :
    dir.SameRows dir' ↔ ∀ row ∈ dir.interfaces ++ dir'.interfaces,
      dir.interfaces.filter (·.name = row.name) = dir'.interfaces.filter (·.name = row.name) := by
  constructor
  · intro h row _
    exact h row.name
  · intro h name
    by_cases hn : ∃ row ∈ dir.interfaces ++ dir'.interfaces, row.name = name
    case pos =>
      obtain ⟨row, hm, rfl⟩ := hn
      exact h row hm
    case neg =>
      have hn : (dir.interfaces ++ dir'.interfaces).filter (·.name = name) = [] :=
        List.filter_eq_nil_iff.mpr fun row hm hr => hn ⟨row, hm, of_decide_eq_true hr⟩
      rw [List.filter_append, List.append_eq_nil_iff] at hn
      rw [hn.1, hn.2]

instance (dir dir' : Directory) : Decidable (dir.SameRows dir') :=
  decidable_of_iff' _ sameRows_iff

namespace SameRows

theorem symm (h : dir.SameRows dir') : dir'.SameRows dir :=
  fun name => (h name).symm

theorem mem (h : dir.SameRows dir') (hm : row ∈ dir.interfaces) : row ∈ dir'.interfaces := by
  have hf : row ∈ dir.interfaces.filter (·.name = row.name) :=
    List.mem_filter.mpr ⟨hm, decide_eq_true rfl⟩
  rw [h row.name] at hf
  exact List.mem_of_mem_filter hf

theorem longest (h : dir.SameRows dir') (hl : dir.Longest description name) :
    dir'.Longest description name where
  ne_empty := hl.ne_empty
  isPrefix := hl.isPrefix
  exists_row :=
    have ⟨row, hm, hn⟩ := hl.exists_row
    ⟨row, h.mem hm, hn⟩
  length_le row hm := hl.length_le row (h.symm.mem hm)

theorem interface?_eq (h : dir.SameRows dir') : dir.interface? = dir'.interface? := by
  funext description
  apply Option.ext
  intro row
  have hr : dir.row? row.name = dir'.row? row.name := congrArg List.getLast? (h row.name)
  rw [interface?_eq_some_iff, interface?_eq_some_iff, hr]
  constructor
  · intro ⟨hl, hg⟩
    exact ⟨h.longest hl, hg⟩
  · intro ⟨hl, hg⟩
    exact ⟨h.symm.longest hl, hg⟩

end SameRows
end Directory
end SensorWatch
