import Mathlib.Data.List.Forall2
import SensorWatch.Proofs.Section.Merge

namespace Option.Rel

variable {α β : Type} {R : α → β → Prop} {a a' : Option α} {b b' : Option β}

theorem or (h : Rel R a b) (h' : Rel R a' b') : Rel R (a.or a') (b.or b') := by
  cases h
  case some h => exact .some h
  case none   => exact h'

theorem map {γ δ : Type} {S : γ → δ → Prop} {f : α → γ} {g : β → δ} (h : Rel R a b)
    (hf : ∀ {x y}, R x y → S (f x) (g y)) : Rel S (a.map f) (b.map g) := by
  cases h
  case some h => exact .some (hf h)
  case none   => exact .none

theorem filter {p : α → Bool} {q : β → Bool} (h : Rel R a b)
    (hp : ∀ {x y}, R x y → p x = q y) : Rel R (a.filter p) (b.filter q) := by
  cases h
  case none => exact .none
  case some x y h =>
    simp only [Option.filter, hp h]
    split
    · exact .some h
    · exact .none

theorem map_eq {γ : Type} {f : α → γ} {g : β → γ} (h : Rel R a b)
    (hf : ∀ {x y}, R x y → f x = g y) : a.map f = b.map g := by
  cases h
  case some h => simp [hf h]
  case none   => rfl

theorem eq {R : α → α → Prop} {a b : Option α} (h : Rel R a b) (hr : ∀ {x y}, R x y → x = y) :
    a = b := by
  simpa using h.map_eq (f := id) (g := id) hr

theorem bind_eq {γ : Type} {f : α → Option γ} {g : β → Option γ} (h : Rel R a b)
    (hf : ∀ {x y}, R x y → f x = g y) : a.bind f = b.bind g := by
  cases h
  case some h => simp [hf h]
  case none   => rfl

theorem imp {S : α → β → Prop} (h : Rel R a b) (hs : ∀ {x y}, R x y → S x y) : Rel S a b := by
  cases h
  case some h => exact .some (hs h)
  case none   => exact .none

theorem isSome_eq (h : Rel R a b) : a.isSome = b.isSome := by
  cases h <;> rfl

end Option.Rel

namespace List.Forall₂

variable {α β : Type} {R : α → β → Prop} {xs : List α} {ys : List β}

theorem head? (h : Forall₂ R xs ys) : Option.Rel R xs.head? ys.head? := by
  cases h
  case nil        => exact .none
  case cons h _   => exact .some h

theorem getLast? (h : Forall₂ R xs ys) : Option.Rel R xs.getLast? ys.getLast? := by
  rw [List.getLast?_eq_head?_reverse, List.getLast?_eq_head?_reverse]
  exact (forall₂_reverse_iff.mpr h).head?

theorem filter {p : α → Bool} {q : β → Bool} (h : Forall₂ R xs ys)
    (hp : ∀ {x y}, R x y → p x = q y) :
    Forall₂ (fun x y => R x y ∧ p x) (xs.filter p) (ys.filter q) := by
  induction h
  case nil => exact .nil
  case cons x y _ _ hr _ ih =>
    rw [filter_cons, filter_cons, ← hp hr]
    split
    case isTrue hx => exact .cons ⟨hr, hx⟩ ih
    case isFalse   => exact ih

theorem find? {p : α → Bool} {q : β → Bool} (h : Forall₂ R xs ys)
    (hp : ∀ {x y}, R x y → p x = q y) :
    Option.Rel (fun x y => R x y ∧ p x) (xs.find? p) (ys.find? q) := by
  rw [← head?_filter, ← head?_filter]
  exact (h.filter hp).head?

theorem map_eq {γ : Type} {f : α → γ} {g : β → γ} (h : Forall₂ R xs ys)
    (hf : ∀ {x y}, R x y → f x = g y) : xs.map f = ys.map g := by
  rw [← forall₂_eq_eq_eq, forall₂_map_left_iff, forall₂_map_right_iff]
  exact h.imp fun _ _ => hf

theorem of_map_eq {γ : Type} {f : α → γ} {g : β → γ} (h : xs.map f = ys.map g) :
    Forall₂ (fun x y => f x = g y) xs ys := by
  rwa [← forall₂_eq_eq_eq, forall₂_map_left_iff, forall₂_map_right_iff] at h

theorem filterMap_eq {γ : Type} {f : α → Option γ} {g : β → Option γ} (h : Forall₂ R xs ys)
    (hf : ∀ {x y}, R x y → f x = g y) : xs.filterMap f = ys.filterMap g := by
  have hm := congrArg (List.filterMap id) (h.map_eq hf)
  rwa [List.filterMap_map, List.filterMap_map] at hm

theorem and_mem (h : Forall₂ R xs ys) : Forall₂ (fun x y => R x y ∧ x ∈ xs) xs ys := by
  rw [forall₂_iff_zip] at h ⊢
  exact ⟨h.1, fun hm => ⟨h.2 hm, (of_mem_zip hm).1⟩⟩

end List.Forall₂

namespace SensorWatch.Tables

-- What two sensors that correspond have to share, so that they play the same part in the merge.
structure Twins (R : String → Sensor → Sensor → Prop) (s s' : Sensor) : Prop where
  item : s.item = s'.item
  state : Text.strip s.rawState = Text.strip s'.rawState
  rel : R s.item s s'

theorem rel_entity? {tables tables' : Tables} {S : EntityRow → EntityRow → Prop}
    {T : Sensor → Sensor → Prop}
    (hd : tables.description? = tables'.description?)
    (hr : List.Forall₂ S tables.entityRows tables'.entityRows)
    (hk : ∀ {row row'}, S row row' → row.sensorId = row'.sensorId ∧
      Quantity.ofCode? row.typeCode = Quantity.ofCode? row'.typeCode)
    {quantity : Quantity} {id : String}
    (hs : ∀ {row row'} (name : String), S row row' → row.sensorId = id →
      T (Registration.sensor (Directory.ofTables tables) ⟨row, quantity, name⟩)
        (Registration.sensor (Directory.ofTables tables') ⟨row', quantity, name⟩)) :
    Option.Rel T (tables.entity? quantity id) (tables'.entity? quantity id) := by
  have hf : Option.Rel
      (fun row row' => S row row' ∧
        (row.sensorId = id && Quantity.ofCode? row.typeCode = some quantity) = true)
      (tables.entityRow? quantity id) (tables'.entityRow? quantity id) :=
    hr.find? fun hr => by rw [(hk hr).1, (hk hr).2]
  rw [entity?, entity?, registration?, registration?, entityName, entityName, hd]
  split
  case isTrue => exact .none
  case isFalse =>
    rw [Option.map_map, Option.map_map]
    refine hf.map ?_
    rintro row row' ⟨hr, hi⟩
    simp only [Bool.and_eq_true, decide_eq_true_eq] at hi
    simp only [Function.comp_apply]
    exact hs _ hr hi.1

variable (R : String → Sensor → Sensor → Prop) (tables tables' : Tables)

-- Two rows of the environment monitor correspond if they have the same part in the merge, and if all
-- that can become of them corresponds.
structure TwinRows (row row' : MonitorRow) : Prop where
  sensorId : row.sensorId = row'.sensorId
  name : row.name = row'.name
  tombstone : R row.name (.tombstone row.name row.state) (.tombstone row.name row'.state)
  sensor : R (tables.monitorItem row)
    (row.sensor (tables.known? row.sensorId) (tables.monitorItem row))
    (row'.sensor (tables'.known? row'.sensorId) (tables.monitorItem row))

structure Related : Prop where
  description? : tables.description? = tables'.description?
  entity? (quantity : Quantity) (id : String) : quantity.isChecked →
    Option.Rel (Twins R) (tables.entity? quantity id) (tables'.entity? quantity id)
  monitorRows : List.Forall₂ (TwinRows R tables tables') tables.monitorRows tables'.monitorRows

namespace Related

variable {R tables tables'} (h : Related R tables tables') {row row' : MonitorRow} {item : String}

include h

theorem known? (id : String) : Option.Rel (Twins R) (tables.known? id) (tables'.known? id) :=
  (h.entity? .celsius id rfl).filter fun twins => by rw [twins.state]

theorem isSuperseded_eq (hr : TwinRows R tables tables' row row') :
    tables.isSuperseded row = tables'.isSuperseded row' := by
  rw [isSuperseded, isSuperseded, h.description?, (h.known? _).isSome_eq, hr.sensorId]

theorem monitorItem_eq (hr : TwinRows R tables tables' row row') :
    tables.monitorItem row = tables'.monitorItem row' := by
  rw [monitorItem, monitorItem, h.isSuperseded_eq hr, entityName, entityName, h.description?,
    hr.sensorId, hr.name]

theorem buried (item : String) :
    Option.Rel (R item)
      ((tables.buried item).getLast?.map fun row => .tombstone item row.state)
      ((tables'.buried item).getLast?.map fun row => .tombstone item row.state) := by
  have hb : List.Forall₂
      (fun row row' => TwinRows R tables tables' row row' ∧
        (tables.isSuperseded row && row.name = item) = true)
      (tables.buried item) (tables'.buried item) :=
    h.monitorRows.filter fun hr => by rw [h.isSuperseded_eq hr, hr.name]
  refine hb.getLast?.map ?_
  intro row row' ⟨hr, hn⟩
  simp only [Bool.and_eq_true, decide_eq_true_eq] at hn
  exact hn.2 ▸ hr.tombstone

theorem monitored (item : String) :
    Option.Rel (R item)
      ((tables.monitored item).head?.map fun row =>
        row.sensor (tables.known? row.sensorId) item)
      ((tables'.monitored item).head?.map fun row =>
        row.sensor (tables'.known? row.sensorId) item) := by
  have hm : List.Forall₂
      (fun row row' => TwinRows R tables tables' row row' ∧
        decide (tables.monitorItem row = item) = true)
      (tables.monitored item) (tables'.monitored item) :=
    h.monitorRows.filter fun hr => by rw [h.monitorItem_eq hr]
  refine hm.head?.map ?_
  intro row row' ⟨hr, hn⟩
  simp only [decide_eq_true_eq] at hn
  exact hn ▸ hr.sensor

theorem bearers_eq {quantity : Quantity} (hq : quantity.isChecked) (item : String) :
    tables.bearers quantity item = tables'.bearers quantity item := by
  ext id
  have hr := h.entity? quantity id hq
  simp only [bearers, Set.mem_ofPred_eq]
  generalize tables.entity? quantity id = entity, tables'.entity? quantity id = entity' at hr
  cases hr
  case none => simp
  case some twins => simp [twins.item]

theorem exists_twin {quantity : Quantity} (hq : quantity.isChecked) {sensor : Sensor}
    (hb : tables.FirstBearer quantity item sensor) :
    ∃ sensor', tables'.FirstBearer quantity item sensor' ∧ R item sensor sensor' := by
  have ⟨id, hl, he⟩ := hb
  have hr := h.entity? quantity id hq
  rw [he] at hr
  cases he' : tables'.entity? quantity id
  case none => simp [he'] at hr
  case some sensor' =>
    have twins : Twins R sensor sensor' := by simpa [he'] using hr
    rw [h.bearers_eq hq] at hl
    refine ⟨sensor', ⟨id, hl, he'⟩, ?_⟩
    rw [← hb.item_eq]
    exact twins.rel

theorem firstBearer {quantity : Quantity} (hq : quantity.isChecked) (item : String) :
    Option.Rel (R item) ((tables.entities quantity).values.find? (·.item = item))
      ((tables'.entities quantity).values.find? (·.item = item)) := by
  cases hs : (tables.entities quantity).values.find? (·.item = item)
  case none =>
    cases hs' : (tables'.entities quantity).values.find? (·.item = item)
    case none => exact .none
    case some sensor' =>
      have ⟨id, hl, _⟩ := (tables'.find?_entities hq).mp hs'
      rw [← h.bearers_eq hq] at hl
      have ⟨sensor, hb⟩ := tables.exists_firstBearer hq ⟨id, hl.1⟩
      simp [(tables.find?_entities hq).mpr hb] at hs
  case some sensor =>
    have ⟨sensor', hb', hr⟩ := h.exists_twin hq ((tables.find?_entities hq).mp hs)
    rw [(tables'.find?_entities hq).mpr hb']
    exact .some hr

theorem get?_ofTables (quantity : Quantity) (item : String) :
    Option.Rel (R item) ((Section.ofTables tables).get? quantity item)
      ((Section.ofTables tables').get? quantity item) := by
  by_cases hc : quantity.isChecked
  case neg =>
    have hc := Bool.not_eq_true _ ▸ hc
    rw [Section.get?_of_unchecked tables item hc, Section.get?_of_unchecked tables' item hc]
    exact .none
  case pos =>
    by_cases hq : quantity = .celsius
    case pos =>
      rw [hq, Section.get?_celsius_eq, Section.get?_celsius_eq]
      exact (h.buried item).or <| (h.monitored item).or <| h.firstBearer rfl item
    case neg =>
      rw [Section.get?_of_ne_celsius tables item hq, Section.get?_of_ne_celsius tables' item hq]
      exact h.firstBearer hc item

end Related
end SensorWatch.Tables

namespace SensorWatch.Section

variable {s s' : Section} {quantity : Quantity}

theorem items_congr {f : Sensor → Sensor} {p : Sensor → Bool}
    (hp : ∀ {sensor sensor'}, f sensor = f sensor' →
      p sensor = p sensor' ∧ sensor.item = sensor'.item)
    (h : ∀ item, (s.get? quantity item).map f = (s'.get? quantity item).map f) :
    ((s.sensors quantity).filter p).map (·.item)
      = ((s'.sensors quantity).filter p).map (·.item) := by
  have hs : List.Forall₂ (fun sensor sensor' => f sensor = f sensor')
      (s.sensors quantity) (s'.sensors quantity) :=
    .of_map_eq (ByName.map_values_congr h)
  refine (hs.filter fun hf => (hp hf).1).map_eq ?_
  intro sensor sensor' ⟨hf, _⟩
  exact (hp hf).2

end SensorWatch.Section
