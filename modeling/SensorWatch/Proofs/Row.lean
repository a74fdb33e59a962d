import Mathlib.Data.List.Forall2
import SensorWatch.Row

namespace SensorWatch

def readable {α : Type} (read : List String → Except RowFault α) (rows : List (List String)) :
    List α :=
  rows.filterMap fun texts => (read texts).toOption

theorem readable_cons {α : Type} {read : List String → Except RowFault α} {texts rows} :
    readable read (texts :: rows) = (read texts).toOption.toList ++ readable read rows := by
  rw [readable, readable, List.filterMap_cons]
  cases (read texts).toOption <;> rfl

theorem filterMap_filter_of_none {α β : Type} {f : α → Option β} {keep : α → Bool}
    (h : ∀ x, keep x = false → f x = none) (xs : List α) :
    (xs.filter keep).filterMap f = xs.filterMap f := by
  rw [List.filterMap_filter]
  congr
  funext x
  cases hx : keep x
  case true => rfl
  case false => exact (h x hx).symm

theorem filterMap_eq_map_filter {α β : Type} {f : α → Option β} {g : α → β} {p : α → Bool}
    (h : ∀ x, f x = if p x then some (g x) else none) (xs : List α) :
    xs.filterMap f = (xs.filter p).map g := by
  induction xs
  case nil => rfl
  case cons x xs ih =>
    rw [List.filterMap_cons, h, List.filter_cons]
    cases p x <;> simp [ih]

def Table.fits (table : Table) (texts : List String) : Bool :=
  texts.length = table.width

-- A reader of the rows of a table, who asks for nothing but their width.
structure ReadsWidth {α : Type} (read : List String → Except RowFault α) (table : Table) :
    Prop where
  exists_row {texts} : table.fits texts → ∃ row, read texts = .ok row
  read_eq_error {texts} : table.fits texts = false →
    read texts = .error (.wrongWidth table texts.length)

namespace ReadsWidth

variable {α : Type} {read : List String → Except RowFault α} {table : Table}

theorem readable_filter (h : ReadsWidth read table) (rows : List (List String)) :
    readable read (rows.filter table.fits) = readable read rows := by
  refine filterMap_filter_of_none ?_ rows
  intro texts ht
  rw [h.read_eq_error ht]
  rfl

end ReadsWidth

theorem DescriptionRow.readsWidth : ReadsWidth DescriptionRow.read .descriptions where
  exists_row {texts} h :=
    match texts, of_decide_eq_true h with
    | [_, _], _ => ⟨_, rfl⟩
  read_eq_error {texts} h := by
    unfold read
    split
    · cases h
    · rfl

theorem EntityRow.readsWidth : ReadsWidth EntityRow.read .sensorStates where
  exists_row {texts} h :=
    match texts, of_decide_eq_true h with
    | [_, _, _, _, _, _], _ => ⟨_, rfl⟩
  read_eq_error {texts} h := by
    unfold read
    split
    · cases h
    · rfl

theorem ThresholdRow.readsWidth : ReadsWidth ThresholdRow.read .thresholds where
  exists_row {texts} h :=
    match texts, of_decide_eq_true h with
    | [_, _, _, _], _ => ⟨_, rfl⟩
  read_eq_error {texts} h := by
    unfold read
    split
    · cases h
    · rfl

theorem MonitorRow.readsWidth : ReadsWidth MonitorRow.read .envMon where
  exists_row {texts} h :=
    match texts, of_decide_eq_true h with
    | [_, _, _, _, _], _ => ⟨_, rfl⟩
  read_eq_error {texts} h := by
    unfold read
    split
    · cases h
    · rfl

theorem InterfaceRow.readsWidth : ReadsWidth InterfaceRow.read .adminStates where
  exists_row {texts} h :=
    match texts, of_decide_eq_true h with
    | [_, _], _ => ⟨_, rfl⟩
  read_eq_error {texts} h := by
    unfold read
    split
    · cases h
    · rfl

-- A reader that takes exactly the rows of one width, each for the fields of its result.
structure ReadsFields {α : Type} (read : List String → Except RowFault α)
    (fields : α → List String) (width : Nat) : Prop where
  read_fields (row : α) : read (fields row) = .ok row
  fields_of_read {texts row} : read texts = .ok row → texts = fields row
  length_fields (row : α) : (fields row).length = width
  exists_fields {texts} : texts.length = width → ∃ row, texts = fields row

namespace ReadsFields

variable {α : Type} {read : List String → Except RowFault α} {fields : α → List String}
  {width : Nat} {S : List String → List String → Prop} {R : α → α → Prop}

theorem toOption_eq_none (h : ReadsFields read fields width) {texts} (hw : texts.length ≠ width) :
    (read texts).toOption = none := by
  cases hr : read texts
  case error => rfl
  case ok row => exact absurd (h.fields_of_read hr ▸ h.length_fields row) hw

theorem fields_inj (h : ReadsFields read fields width) {row row' : α}
    (hf : fields row = fields row') : row = row' := by
  have hr := h.read_fields row
  rw [hf, h.read_fields] at hr
  exact (Except.ok.inj hr).symm

theorem rel_toOption (h : ReadsFields read fields width) {texts texts' : List String}
    (hl : texts.length = texts'.length)
    (hr : ∀ {row row'}, texts = fields row → texts' = fields row' → R row row') :
    Option.Rel R (read texts).toOption (read texts').toOption := by
  by_cases hw : texts.length = width
  case pos =>
    have ⟨row, ht⟩ := h.exists_fields hw
    have ⟨row', ht'⟩ := h.exists_fields (hl ▸ hw)
    have hrow := hr ht ht'
    rw [ht, ht', h.read_fields, h.read_fields]
    exact .some hrow
  case neg =>
    rw [h.toOption_eq_none hw, h.toOption_eq_none (hl ▸ hw)]
    exact .none

theorem rel_readable (h : ReadsFields read fields width) {rows rows' : List (List String)}
    (hs : List.Forall₂ S rows rows')
    (hl : ∀ {texts texts'}, S texts texts' → texts.length = texts'.length)
    (hr : ∀ {row row'}, S (fields row) (fields row') → R row row') :
    List.Forall₂ R (readable read rows) (readable read rows') := by
  refine List.rel_filterMap ?_ hs
  intro texts texts' hS
  refine h.rel_toOption (hl hS) ?_
  intro row row' ht ht'
  exact hr (ht ▸ ht' ▸ hS)

end ReadsFields

def EntityRow.fields (row : EntityRow) : List String :=
  [row.sensorId, row.typeCode, row.scale, row.precision, row.value, row.state]

theorem EntityRow.readsFields : ReadsFields EntityRow.read EntityRow.fields 6 where
  read_fields _ := rfl
  fields_of_read {texts row} h := by
    unfold read at h
    split at h <;> cases h
    rfl
  length_fields _ := rfl
  exists_fields {texts} h :=
    match texts, h with
    | [a, b, c, d, e, f], _ => ⟨⟨a, b, c, d, e, f⟩, rfl⟩

def MonitorRow.fields (row : MonitorRow) : List String :=
  [row.sensorId, row.description, row.value, row.maxThreshold, row.state]

theorem MonitorRow.readsFields : ReadsFields MonitorRow.read MonitorRow.fields 5 where
  read_fields _ := rfl
  fields_of_read {texts row} h := by
    unfold read at h
    split at h <;> cases h
    rfl
  length_fields _ := rfl
  exists_fields {texts} h :=
    match texts, h with
    | [a, b, c, d, e], _ => ⟨⟨a, b, c, d, e⟩, rfl⟩

def InterfaceRow.fields (row : InterfaceRow) : List String :=
  [row.name, row.code]

theorem InterfaceRow.readsFields : ReadsFields InterfaceRow.read InterfaceRow.fields 2 where
  read_fields _ := rfl
  fields_of_read {texts row} h := by
    unfold read at h
    split at h <;> cases h
    rfl
  length_fields _ := rfl
  exists_fields {texts} h :=
    match texts, h with
    | [a, b], _ => ⟨⟨a, b⟩, rfl⟩

end SensorWatch
