import SensorWatch.Proofs.Section.Directory
import SensorWatch.Proofs.Section.Interface
import SensorWatch.Proofs.Section.Related
import SensorWatch.Proofs.Threshold

theorem List.Perm.find?_eq {α : Type} {xs ys : List α} {p : α → Bool} (h : xs.Perm ys)
    (hp : xs.Pairwise fun x y => p x → ¬p y) : xs.find? p = ys.find? p := by
  rw [← List.head?_filter, ← List.head?_filter, h.filter_eq hp]

namespace SensorWatch

structure Tables.Reordered (tables tables' : Tables) : Prop where
  descriptions : tables.descriptions.Perm tables'.descriptions
  sensorStates : tables.sensorStates.Perm tables'.sensorStates
  thresholds : tables.thresholds.Perm tables'.thresholds
  adminStates : tables.adminStates.Perm tables'.adminStates
  envMon : tables.envMon = tables'.envMon

-- Tables in which no two rows that can be read contradict each other: a sensor has one description
-- and one row in the entity table, an interface one state, and a sensor one threshold for a mark.
structure Tables.Unambiguous (tables : Tables) : Prop where
  descriptions : (tables.descriptionRows.map (·.sensorId)).Nodup
  sensorStates : (tables.entityRows.map (·.sensorId)).Nodup
  adminStates : (tables.interfaceRows.map (·.name)).Nodup
  thresholds : (Directory.ofTables tables).thresholds.Pairwise fun entry entry' =>
    entry.1 = entry'.1 → entry.2.Apart entry'.2

namespace Tables.Reordered

variable {tables tables' : Tables} (h : Reordered tables tables') (hu : tables.Unambiguous)

include h

theorem thresholdsOf (id : String) : ((Directory.ofTables tables).thresholdsOf id).Perm
    ((Directory.ofTables tables').thresholdsOf id) := by
  rw [Directory.thresholdsOf_ofTables, Directory.thresholdsOf_ofTables]
  exact ((h.thresholds.filterMap _).filter _).filterMap _

theorem monitorRows : tables.monitorRows = tables'.monitorRows := by
  rw [Tables.monitorRows, Tables.monitorRows, h.envMon]

include hu

theorem description? : tables.description? = tables'.description? := by
  funext id
  have hp : tables.descriptionRows.Perm tables'.descriptionRows := h.descriptions.filterMap _
  have hd := List.pairwise_map.mp hu.descriptions
  rw [Tables.description?, Tables.description?, hp.filter_eq ?_]
  refine hd.imp ?_
  intro row row' hn
  grind

theorem entityRow? (quantity : Quantity) (id : String) :
    tables.entityRow? quantity id = tables'.entityRow? quantity id := by
  have hp : tables.entityRows.Perm tables'.entityRows := h.sensorStates.filterMap _
  have hd := List.pairwise_map.mp hu.sensorStates
  refine hp.find?_eq (hd.imp ?_)
  intro row row' hn
  grind

theorem adminState? :
    (Directory.ofTables tables).adminState? = (Directory.ofTables tables').adminState? := by
  have hn : (Directory.ofTables tables).names = (Directory.ofTables tables').names := by
    apply Std.ExtTreeMap.ext_getElem?
    intro id
    rw [Directory.names_ofTables, Directory.names_ofTables, h.description? hu]
  have hs : (Directory.ofTables tables).SameRows (Directory.ofTables tables') := by
    intro name
    have hp : tables.interfaceRows.Perm tables'.interfaceRows := h.adminStates.filterMap _
    rw [Directory.interfaces_ofTables, Directory.interfaces_ofTables]
    refine hp.filter_eq ((List.pairwise_map.mp hu.adminStates).imp ?_)
    intro row row' hn
    grind
  refine Directory.adminState?_congr hn ?_
  intro description
  rw [hs.interface?_eq]

theorem limits_thresholdsOf (quantity : Quantity) (factor : Binary64) (id : String) :
    Threshold.limits quantity factor ((Directory.ofTables tables).thresholdsOf id)
      = Threshold.limits quantity factor ((Directory.ofTables tables').thresholdsOf id) := by
  refine Threshold.limits_perm (h.thresholdsOf id) ?_ quantity factor
  refine List.pairwise_map.mpr <| List.pairwise_filter.mpr <| hu.thresholds.imp ?_
  intro entry entry' ha hi hi'
  exact ha <| (of_decide_eq_true hi).trans (of_decide_eq_true hi').symm

theorem registration? (quantity : Quantity) (id : String) :
    tables.registration? quantity id = tables'.registration? quantity id := by
  rw [Tables.registration?, Tables.registration?, entityName, entityName, h.description? hu,
    h.entityRow? hu]

theorem entity? (quantity : Quantity) (id : String) :
    tables.entity? quantity id = tables'.entity? quantity id := by
  have hs (r : Registration) :
      r.sensor (Directory.ofTables tables) = r.sensor (Directory.ofTables tables') := by
    refine Registration.sensor_congr (by rw [h.adminState? hu]) ?_
    intro factor
    exact h.limits_thresholdsOf hu ..
  simp only [Tables.entity?, h.registration? hu, hs]

theorem related : Related (fun _ s s' => s = s') tables tables' where
  description? := h.description? hu
  entity? quantity id _ := by
    rw [h.entity? hu]
    cases tables'.entity? quantity id
    case none => exact .none
    case some => exact .some ⟨rfl, rfl, rfl⟩
  monitorRows := by
    rw [← h.monitorRows]
    refine List.forall₂_same.mpr ?_
    intro row _
    refine ⟨rfl, rfl, rfl, ?_⟩
    rw [Tables.known?, Tables.known?, h.entity? hu]

end Tables.Reordered

namespace Section

theorem eq_empty_of_fill {sensors : ByName Sensor} (h : fill sensors ∅ = ∅) : sensors = ∅ := by
  apply Std.ExtTreeMap.ext_getElem?
  intro id
  rw [Std.ExtTreeMap.getElem?_empty, Option.eq_none_iff_forall_ne_some]
  intro sensor hs
  have hf := congrArg (·[sensor.item]?) h
  rw [getElem?_fill, Std.ExtTreeMap.getElem?_empty, Option.none_or, List.find?_eq_none] at hf
  exact hf sensor (ByName.mem_values_iff.mpr ⟨id, hs⟩) (decide_eq_true rfl)

-- The partition of the temperatures is always there,
theorem partitions_celsius_ne_none (tables : Tables) :
    (ofTables tables).partitions[Quantity.celsius]? ≠ none := by
  rw [partitions_ofTables, getElem?_fillAll, Std.ExtTreeMap.getElem?_insert]
  simp

-- and any other one for its sensors only.
theorem partitions_ne_empty (tables : Tables) {quantity : Quantity} (hq : quantity ≠ .celsius) :
    (ofTables tables).partitions[quantity]? ≠ some ∅ := by
  rw [partitions_ofTables, getElem?_fillAll, Std.ExtTreeMap.getElem?_insert,
    ByQuantity.sensors_insert, if_neg hq.symm, ByQuantity.sensors_empty]
  simp only [Std.compare_eq_iff_eq, hq.symm, if_false, Std.ExtTreeMap.getElem?_empty,
    Option.or_none, ne_eq, Option.map_eq_some_iff, not_exists, not_and]
  intro sensors hs hf
  rw [eq_empty_of_fill hf] at hs
  exact registerAll_ne_empty _ _ hs

theorem getElem?_partitions_ofTables (tables : Tables) (quantity : Quantity) :
    (ofTables tables).partitions[quantity]?
      = if quantity = .celsius ∨ (ofTables tables).partitions.sensors quantity ≠ ∅ then
          some ((ofTables tables).partitions.sensors quantity)
        else none := by
  rw [ByQuantity.sensors]
  cases hp : (ofTables tables).partitions[quantity]?
  case none =>
    have hq : quantity ≠ .celsius := by
      rintro rfl
      exact partitions_celsius_ne_none tables hp
    simp [hq]
  case some sensors =>
    by_cases hq : quantity = .celsius
    case pos => simp [hq]
    case neg =>
      have hs : sensors ≠ ∅ := by
        rintro rfl
        exact partitions_ne_empty tables hq hp
      simp [hs]

theorem ext_get? {tables tables' : Tables}
    (h : ∀ quantity item,
      (ofTables tables).get? quantity item = (ofTables tables').get? quantity item) :
    ofTables tables = ofTables tables' := by
  have hs (quantity : Quantity) : (ofTables tables).partitions.sensors quantity
      = (ofTables tables').partitions.sensors quantity :=
    Std.ExtTreeMap.ext_getElem? fun item => h quantity item
  have hp : (ofTables tables).partitions = (ofTables tables').partitions := by
    apply Std.ExtTreeMap.ext_getElem?
    intro quantity
    rw [getElem?_partitions_ofTables, getElem?_partitions_ofTables, hs]
  exact congrArg Section.mk hp

-- Rows may arrive in any order: the section is the same to the last bit.
theorem ofTables_eq_of_reordered {tables tables' : Tables} (h : tables.Reordered tables')
    (hu : tables.Unambiguous) : ofTables tables = ofTables tables' := by
  apply ext_get?
  intro quantity item
  exact ((h.related hu).get?_ofTables quantity item).eq id

def card : Tables where
  descriptions := [["1", "Te1/1 Receive"], ["2", "Te1/10 Receive"], ["3", "Card"]]
  sensorStates := [["1", "14", "9", "1", "-34", "1"], ["2", "14", "9", "1", "-41", "1"],
    ["3", "8", "9", "0", "38", "1"]]
  thresholds := [["1.1", "0", "4", "20"], ["1.2", "0", "4", "nan"], ["2.1", "0", "4", "-0"],
    ["2.2", "0", "4", "0"], ["3.1", "20", "4", "70"], ["3.2", "10", "4", "60"],
    ["3.3", "20", "1", "5"]]
  envMon := [["3", "Card", "38", "68", "1"], ["4", "Inlet", "27", "0", "1"]]
  adminStates := [["Te1/1", "1"], ["Te1/10", "2"]]

def cardReversed : Tables where
  descriptions := card.descriptions.reverse
  sensorStates := card.sensorStates.reverse
  thresholds := card.thresholds.reverse
  envMon := card.envMon
  adminStates := card.adminStates.reverse

theorem card_reversed :
    card.Reordered cardReversed ∧ card.Unambiguous ∧ ofTables card = ofTables cardReversed := by
  have h : card.Reordered cardReversed :=
    ⟨(List.reverse_perm _).symm, (List.reverse_perm _).symm, (List.reverse_perm _).symm,
      (List.reverse_perm _).symm, rfl⟩
  have hu : card.Unambiguous :=
    ⟨by decide +kernel, by decide +kernel, by decide +kernel, by decide +kernel⟩
  exact ⟨h, hu, ofTables_eq_of_reordered h hu⟩

end Section
end SensorWatch
