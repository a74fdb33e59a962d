import SensorWatch.Proofs.Section.Tombstone

namespace SensorWatch

namespace Section

variable (s : Section) (quantity : Quantity) (item : String)

def nameList : List (Quantity × String) :=
  s.partitions.toList.flatMap fun (quantity, sensors) => sensors.keys.map (quantity, ·)

theorem nodup_nameList : s.nameList.Nodup := by
  refine List.nodup_flatMap.mpr ⟨?_, (ByQuantity.pairwise_toList s.partitions).imp ?_⟩
  case refine_1 =>
    intro part _
    exact Std.ExtTreeMap.nodup_keys.map (Prod.mk_right_injective _)
  case refine_2 =>
    intro part other hn
    simp [Function.onFun, List.disjoint_left, hn.symm]

def names : Finset (Quantity × String) :=
  ⟨s.nameList, s.nodup_nameList⟩

theorem card_names : s.names.card = s.size := by
  have hc : s.names.card = s.nameList.length := rfl
  rw [hc, nameList, List.length_flatMap, List.sum_eq_foldl, List.foldl_map, size,
    Std.ExtTreeMap.foldl_eq_foldl_toList]
  simp

theorem mem_names_iff :
    (quantity, item) ∈ s.names ↔ ∃ sensor, s.get? quantity item = some sensor := by
  have hm : (quantity, item) ∈ s.names ↔ (quantity, item) ∈ s.nameList := .rfl
  rw [hm, nameList, List.mem_flatMap, get?, ByQuantity.sensors, ← Option.isSome_iff_exists,
    ← Std.ExtTreeMap.mem_iff_isSome_getElem?, ← Std.ExtTreeMap.mem_keys]
  constructor
  · rintro ⟨⟨q, sensors⟩, hp, hi⟩
    have hp := Std.ExtTreeMap.mem_toList_iff_getElem?_eq_some.mp hp
    obtain ⟨key, hk, rfl, rfl⟩ : ∃ key ∈ sensors.keys, q = quantity ∧ key = item := by
      simpa using hi
    rwa [hp]
  · intro hi
    cases h : s.partitions[quantity]?
    case none => simp [h] at hi
    case some sensors =>
      rw [h] at hi
      exact ⟨_, Std.ExtTreeMap.mem_toList_iff_getElem?_eq_some.mpr h, List.mem_map_of_mem hi⟩

end Section

namespace Tables

variable (tables : Tables)

-- The sensors that the entity table registers, each by what it measures and its id. A row registers
-- a sensor if its type code stands for a checked quantity and the sensor has a name.
def registered : Finset (Quantity × String) :=
  (tables.entityRows.filterMap fun row =>
    (Quantity.ofCode? row.typeCode).map (·, row.sensorId)).toFinset.filter fun (quantity, id) =>
      quantity.isChecked ∧ tables.entityName id ≠ ""

def named : Quantity × String → Quantity × String
  | (quantity, id) => (quantity, tables.entityName id)

def monitorNames : Finset String :=
  (tables.monitorRows.map (·.name)).toFinset

variable {tables} {quantity : Quantity} {id item : String}

theorem isSome_entity?_iff :
    (tables.entity? quantity id).isSome ↔
      tables.entityName id ≠ "" ∧
        ∃ row ∈ tables.entityRows,
          row.sensorId = id ∧ Quantity.ofCode? row.typeCode = some quantity := by
  by_cases hn : tables.entityName id = "" <;>
    simp [entity?, registration?, entityRow?, hn]

theorem mem_registered_iff :
    (quantity, id) ∈ tables.registered ↔
      quantity.isChecked ∧ (tables.entity? quantity id).isSome := by
  rw [isSome_entity?_iff]
  simp only [registered, Finset.mem_filter, List.mem_toFinset, List.mem_filterMap,
    Option.map_eq_some_iff, Prod.mk.injEq]
  constructor
  · intro ⟨⟨row, hm, _, hc, hq, hi⟩, hk, hn⟩
    exact ⟨hk, hn, row, hm, hi, hq ▸ hc⟩
  · intro ⟨hk, hn, row, hm, hi, hc⟩
    exact ⟨⟨row, hm, quantity, hc, rfl, hi⟩, hk, hn⟩

theorem mem_image_named_iff :
    (quantity, item) ∈ tables.registered.image tables.named ↔
      quantity.isChecked ∧ (tables.bearers quantity item).Nonempty := by
  simp only [Finset.mem_image, Prod.exists, mem_registered_iff, named, Prod.mk.injEq]
  constructor
  · intro ⟨q, id, ⟨hk, he⟩, hq, hi⟩
    have ⟨sensor, he⟩ := Option.isSome_iff_exists.mp he
    exact ⟨hq ▸ hk, id, sensor, hq ▸ he, hi ▸ item_of_entity? he⟩
  · intro ⟨hk, id, sensor, he, hi⟩
    exact ⟨quantity, id, ⟨hk, he ▸ rfl⟩, rfl, hi ▸ (item_of_entity? he).symm⟩

theorem exists_firstBearer_iff (hq : quantity.isChecked) :
    (∃ sensor, tables.FirstBearer quantity item sensor) ↔
      (tables.bearers quantity item).Nonempty := by
  constructor
  · intro ⟨_, id, hl, _⟩
    exact ⟨id, hl.1⟩
  · exact tables.exists_firstBearer hq

theorem bearers_nonempty_of_monitorItem_ne {row : MonitorRow}
    (h : tables.monitorItem row ≠ row.name) :
    (tables.bearers .celsius (tables.monitorItem row)).Nonempty := by
  rw [monitorItem] at h ⊢
  split at h
  case isFalse => exact absurd rfl h
  case isTrue hs =>
    obtain ⟨sensor, hk⟩ := Option.isSome_iff_exists.mp (isSuperseded_iff.mp hs).2
    have he := (Option.filter_eq_some_iff.mp hk).1
    rw [if_pos hs]
    exact ⟨row.sensorId, sensor, he, item_of_entity? he⟩

theorem exists_holds_iff_named :
    (∃ sensor, tables.Holds item sensor) ↔
      (tables.bearers .celsius item).Nonempty ∨ ∃ row ∈ tables.monitorRows, row.name = item := by
  constructor
  · intro h
    rcases exists_holds_iff.mp h with hb | hm | he
    · have ⟨row, hm, _, hn⟩ := buried_ne_nil_iff.mp hb
      exact .inr ⟨row, hm, hn⟩
    · have ⟨row, hm⟩ := List.exists_mem_of_ne_nil _ hm
      simp only [monitored, List.mem_filter, decide_eq_true_eq] at hm
      by_cases hn : tables.monitorItem row = row.name
      case pos => exact .inr ⟨row, hm.1, hn ▸ hm.2⟩
      case neg => exact .inl (hm.2 ▸ bearers_nonempty_of_monitorItem_ne hn)
    · exact .inl he
  · intro h
    rcases h with he | ⟨row, hm, hn⟩
    · exact exists_holds_iff.mpr <| .inr <| .inr he
    · exact hn ▸ exists_holds_of_monitorRow hm

end Tables

namespace Section

variable (tables : Tables)

-- No name of the tables is lost in the merge, and none comes up that the tables do not have.
theorem names_ofTables :
    (ofTables tables).names
      = tables.registered.image tables.named ∪ tables.monitorNames.image (.celsius, ·) := by
  ext ⟨quantity, item⟩
  rw [mem_names_iff, Finset.mem_union, Tables.mem_image_named_iff]
  by_cases hc : quantity.isChecked
  case neg =>
    have hq : quantity ≠ .celsius := by
      rintro rfl
      exact hc rfl
    simp [get?_of_unchecked tables item (Bool.not_eq_true _ ▸ hc), hc, hq.symm]
  case pos =>
    rcases Quantity.isChecked_iff.mp hc with rfl | rfl
    case inl =>
      simp only [get?_celsius_eq_some_iff, Tables.exists_holds_iff_named]
      simp [Tables.monitorNames, Quantity.isChecked]
    case inr =>
      have he : (∃ sensor, tables.FirstBearer .dBm item sensor) ↔
          (tables.bearers .dBm item).Nonempty :=
        Tables.exists_firstBearer_iff rfl
      simp [get?_dBm_eq_some_iff, he, Quantity.isChecked]

variable {tables}

theorem disjoint_names (h : tables.envMon = [] ∨ tables.sensorStates = []) :
    Disjoint (tables.registered.image tables.named)
      (tables.monitorNames.image (Quantity.celsius, ·)) := by
  rcases h with h | h
  case inl => simp [Tables.monitorNames, Tables.monitorRows, h, readable]
  case inr => simp [Tables.registered, Tables.entityRows, h, readable]

-- Where only one of the two sensor tables has rows, a section has as many sensors as there are
-- names: as many as the tables have sensors exactly if no two of these share a name.
theorem size_ofTables (h : tables.envMon = [] ∨ tables.sensorStates = []) :
    (ofTables tables).size
        = (tables.registered.image tables.named).card + tables.monitorNames.card ∧
      ((ofTables tables).size = tables.registered.card + tables.monitorRows.length ↔
        Set.InjOn tables.named tables.registered ∧ (tables.monitorRows.map (·.name)).Nodup) := by
  have hs : (ofTables tables).size
      = (tables.registered.image tables.named).card + tables.monitorNames.card := by
    rw [← card_names, names_ofTables, Finset.card_union_of_disjoint (disjoint_names h),
      Finset.card_image_of_injective _ (Prod.mk_right_injective _)]
  have hr : (tables.registered.image tables.named).card ≤ tables.registered.card :=
    Finset.card_image_le
  have hm : tables.monitorNames.card ≤ tables.monitorRows.length :=
    (List.toFinset_card_le _).trans_eq (List.length_map _)
  have hd : tables.monitorNames.card = tables.monitorRows.length ↔
      (tables.monitorRows.map (·.name)).Nodup := by
    have hl : (tables.monitorRows.map (·.name)).length = tables.monitorRows.length :=
      List.length_map _
    exact hl ▸ Multiset.toFinset_card_eq_card_iff_nodup
  refine ⟨hs, ?_⟩
  rw [← Finset.card_image_iff, ← hd, hs]
  omega

def opticalModule : Tables where
  descriptions := [["21", "Te1/1 Module"], ["22", "Te1/1 Module"]]
  sensorStates := [["21", "8", "9", "0", "31", "1"], ["22", "14", "9", "0", "-3", "1"]]

theorem opticalModule_size :
    opticalModule.envMon = [] ∧
      (ofTables opticalModule).size
        = opticalModule.registered.card + opticalModule.monitorRows.length := by
  have hn : ∀ a ∈ opticalModule.registered, ∀ b ∈ opticalModule.registered,
      opticalModule.named a = opticalModule.named b → a = b := by
    decide +kernel
  have he : opticalModule.envMon = [] := rfl
  refine ⟨he, (size_ofTables (.inl he)).2.mpr ⟨?_, by decide +kernel⟩⟩
  intro a ha b hb h
  exact hn a ha b hb h

def inlets : Tables where
  descriptions := [["1", "Inlet"], ["2", "Inlet"]]
  sensorStates := [["1", "8", "9", "0", "30", "1"], ["2", "8", "9", "0", "40", "1"]]

-- Only one of them finds a place in the section, although their ids differ.
theorem not_forall_size_eq :
    ¬∀ tables : Tables,
      tables.envMon = [] ∨ tables.sensorStates = [] →
      (tables.monitorRows.map (·.sensorId)).Nodup →
      (ofTables tables).size = tables.registered.card + tables.monitorRows.length := by
  intro apart
  have h := apart inlets (.inl rfl) (by decide +kernel)
  have hs : (ofTables inlets).size = 1 := by decide +kernel
  have hr : inlets.registered.card = 2 := by decide +kernel
  have hm : inlets.monitorRows = [] := by decide +kernel
  rw [hs, hr, hm] at h
  exact absurd h (by decide)

end Section
end SensorWatch
