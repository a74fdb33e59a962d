import Mathlib.Data.List.Nodup
import SensorWatch.Json.Record

namespace Except

variable {ε α β : Type} {x : Except ε α} {b : β}

theorem map_eq_ok_iff {f : α → β} : x.map f = .ok b ↔ ∃ a, x = .ok a ∧ f a = b := by
  cases x <;> simp [Except.map]

theorem bind_eq_ok_iff {f : α → Except ε β} : x >>= f = .ok b ↔ ∃ a, x = .ok a ∧ f a = .ok b := by
  cases x <;> simp [bind, Except.bind]

end Except

namespace SensorWatch.Json

def keyed (members : List (String × Json)) : List (Json × Json) :=
  members.map fun (key, j) => (.text key, j)

def members : Json → List (String × Json)
  | object members => members.filterMap fun
    | (text key, j) => some (key, j)
    | _ => none
  | _ => []

def parts : Json → List Json
  | array items => items
  | object members => members.map (·.2)
  | _ => []

namespace Record

variable {α β : Type} {name : String} {j : Json} {find : String → Option Json} {a : α}

structure Gives (record : Record α) (find : String → Option Json) (a : α) : Prop where
  build_eq : record.build find = .ok a
  faultless : ∀ field ∈ record.fields, ∀ j, find field.name = some j → field.fault? j = none

section

variable {decoder : Decoder α} (hj : find name = some j)

include hj

theorem gives_required (hd : decoder j = .ok a) : (required name decoder).Gives find a where
  build_eq := by simp [required, hj, hd]
  faultless := by simp [required, Field.of, hj, hd]

theorem gives_optional {default : α} (hd : decoder j = .ok a) :
    (optional name decoder default).Gives find a where
  build_eq := by simp [optional, hj, hd]
  faultless := by simp [optional, Field.of, hj, hd]

theorem gives_nullable {a : Option α} (hd : decoder.nullable j = .ok a) :
    (nullable name decoder).Gives find a where
  build_eq := by simp [nullable, hj, hd]
  faultless := by simp [nullable, Field.of, hj, hd]

end

theorem gives_pure (a : α) : Gives (pure a) find a :=
  ⟨rfl, by rintro _ ⟨⟩⟩

theorem Gives.seq {f : Record (α → β)} {x : Record α} {g : α → β} (hf : f.Gives find g)
    (hx : x.Gives find a) : (f <*> x).Gives find (g a) where
  build_eq := by
    change f.build find <*> x.build find = _
    rw [hf.build_eq, hx.build_eq]
    rfl
  faultless field hm := (List.mem_append.mp hm).elim (hf.faultless field) (hx.faultless field)

theorem Gives.map {x : Record α} (hx : x.Gives find a) (g : α → β) : (g <$> x).Gives find (g a) :=
  (gives_pure g).seq hx

section

variable {members members' found : List (String × Json)}

theorem lookup_eq_some_iff_mem (hn : (members.map (·.1)).Nodup) :
    members.lookup name = some j ↔ (name, j) ∈ members := by
  induction members
  case nil => simp
  case cons m members ih =>
    obtain ⟨key, j'⟩ := m
    rw [List.map_cons, List.nodup_cons] at hn
    by_cases hk : name = key
    case neg =>
      have hb : (name == key) = false := beq_false_of_ne hk
      simp [List.lookup_cons, hb, hk, ih hn.2]
    case pos =>
      subst hk
      have hm : (name, j) ∉ members := fun hm => hn.1 (List.mem_map.mpr ⟨_, hm, rfl⟩)
      simp [hm, eq_comm]

theorem lookup_eq_of_perm (hn : (members.map (·.1)).Nodup) (hp : members.Perm members') :
    members.lookup name = members'.lookup name := by
  ext j
  rw [lookup_eq_some_iff_mem hn, lookup_eq_some_iff_mem ((hp.map _).nodup hn), hp.mem_iff]

-- Members that are fields, are not at fault and do not repeat are all found, the last one first.
theorem ofMembers_keyed {fields : List Field} (hn : ((members ++ found).map (·.1)).Nodup)
    (hm : ∀ m ∈ members, ∃ field,
      fields.find? (·.name = m.1) = some field ∧ field.fault? m.2 = none) :
    ofMembers fields found (keyed members) = .ok (members.reverse ++ found) := by
  induction members generalizing found
  case nil => rfl
  case cons m members ih =>
    have hn' : ((members ++ m :: found).map (·.1)).Nodup :=
      (List.perm_middle.symm.map _).nodup hn
    have hk : (found.lookup m.1).isSome = false := by
      rw [List.cons_append, List.map_cons, List.nodup_cons] at hn
      by_contra hs
      have ⟨j, hj⟩ : ∃ j, (m.1, j) ∈ found := by simpa using hs
      exact hn.1 (List.mem_map.mpr ⟨_, List.mem_append_right _ hj, rfl⟩)
    have ⟨field, hl, hd⟩ := hm m (.head _)
    have hs : ofMembers fields found (keyed (m :: members))
        = ofMembers fields (m :: found) (keyed members) := by
      rw [keyed, List.map_cons, ← keyed, ofMembers]
      simp [hl, hd, hk]
    rw [hs, ih hn' fun m h => hm m (.tail _ h)]
    simp

theorem decoder_keyed {record : Record α} (hn : (members.map (·.1)).Nodup)
    (hk : members.map (·.1) = record.fields.map (·.name))
    (h : record.Gives (members.lookup ·) a) : record.decoder (.object (keyed members)) = .ok a := by
  have hm : ∀ m ∈ members, ∃ field,
      record.fields.find? (·.name = m.1) = some field ∧ field.fault? m.2 = none := by
    intro m hm
    have hf : m.1 ∈ record.fields.map (·.name) := hk ▸ List.mem_map_of_mem hm
    have hs : (record.fields.find? (·.name = m.1)).isSome := by
      simpa using hf
    have ⟨field, hs⟩ := Option.isSome_iff_exists.mp hs
    have hn' : field.name = m.1 := by simpa using List.find?_some hs
    refine ⟨field, hs, h.faultless field (List.mem_of_find?_eq_some hs) m.2 ?_⟩
    exact hn' ▸ (lookup_eq_some_iff_mem hn).mpr hm
  have hl : (members.reverse.lookup ·) = (members.lookup ·) := by
    funext name
    exact (lookup_eq_of_perm hn (List.reverse_perm members).symm).symm
  rw [decoder, ofMembers_keyed (by simpa using hn) hm, List.append_nil]
  change record.build (members.reverse.lookup ·) = .ok a
  rw [hl, h.build_eq]

end

section

variable {fields : List Field} {found all : List (String × Json)} {p : String × Json}

theorem mem_of_ofMembers {members : List (Json × Json)}
    (h : ofMembers fields found members = .ok all) (hp : p ∈ all) :
    p ∈ found ∨ p.2 ∈ members.map (·.2) := by
  fun_induction ofMembers fields found members
  case case1 =>
    cases h
    exact .inl hp
  case case2 ih => exact (ih h).imp_right (.tail _)
  case case6 ih =>
    rcases ih h with hf | hm
    case inl =>
      rcases List.mem_cons.mp hf with rfl | hf
      · exact .inr (.head _)
      · exact .inl hf
    case inr => exact .inr (.tail _ hm)
  all_goals cases h

theorem mem_of_ofItems {items : List Json} (h : ofItems fields items = .ok all) (hp : p ∈ all) :
    p.2 ∈ items := by
  fun_induction ofItems fields items generalizing all
  case case1 | case3 =>
    cases h
    cases hp
  case case6 ih =>
    obtain ⟨found, hf, rfl⟩ := Except.map_eq_ok_iff.mp h
    rcases List.mem_cons.mp hp with rfl | hp
    · exact .head _
    · exact .tail _ (ih hf hp)
  all_goals cases h

theorem exists_build_of_decoder {record : Record α} (h : record.decoder j = .ok a) :
    ∃ all : List (String × Json),
      record.build (all.lookup ·) = .ok a ∧ ∀ p ∈ all, p.2 ∈ j.parts := by
  unfold decoder at h
  split at h
  case h_1 members =>
    have ⟨all, hf, hb⟩ := Except.bind_eq_ok_iff.mp h
    refine ⟨all, hb, fun p hp => ?_⟩
    simpa [parts] using mem_of_ofMembers hf hp
  case h_2 items =>
    have ⟨all, hf, hb⟩ := Except.bind_eq_ok_iff.mp h
    exact ⟨all, hb, fun p hp => mem_of_ofItems hf hp⟩
  case h_3 => cases h

end

section

variable {x : Record α} {b : β}

theorem build_seq_eq_ok_iff {f : Record (α → β)} :
    (f <*> x).build find = .ok b ↔
      ∃ g a, f.build find = .ok g ∧ x.build find = .ok a ∧ g a = b := by
  change f.build find <*> x.build find = _ ↔ _
  cases f.build find <;> cases x.build find <;> simp [Seq.seq, Except.bind, Except.map]

theorem build_map_eq_ok_iff {g : α → β} :
    (g <$> x).build find = .ok b ↔ ∃ a, x.build find = .ok a ∧ g a = b := by
  change (Except.ok g <*> x.build find : Except Fault β) = _ ↔ _
  cases x.build find <;> simp [Seq.seq, Except.bind, Except.map]

end
end Record
end SensorWatch.Json
