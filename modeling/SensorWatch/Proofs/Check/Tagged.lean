import SensorWatch.Proofs.Check.Offered
import SensorWatch.Proofs.Section.Interface
import SensorWatch.Proofs.Section.Directory

namespace SensorWatch

theorem Tables.adminState_of_entity? {tables : Tables} {quantity : Quantity} {id : String}
    {sensor : Sensor} (h : tables.entity? quantity id = some sensor) :
    sensor.adminState = (Directory.ofTables tables).adminState? id := by
  have ⟨row, hr, hs⟩ := exists_entityRow h
  have hi := List.find?_some hr
  simp only [Bool.and_eq_true, decide_eq_true_eq] at hi
  rw [hs, Registration.sensor_eq, ← hi.1]

namespace Section

variable {tables : Tables} {item : String} {sensor : Sensor}

theorem isOpticalItem_iff (h : (ofTables tables).get? .dBm item = some sensor)
    (discovery : OpticalDiscovery) :
    sensor.isOpticalItem discovery ↔ Text.strip sensor.rawState = "1"
      ∧ ∀ state, sensor.adminState = some state → discovery.states.contains state := by
  have hf := filed_of_get? h
  simp [Sensor.isOpticalItem, hf.valid.entity_of_dBm hf.quantity_eq, Option.all_eq_true]

-- The last row of the longest name decides about the tag. If its code is unknown there is no tag,
-- even if other names fit; and only the order of the rows of one interface matters. With the tag of
-- its id an optical sensor is in the section, and it is offered as long as it is well and its
-- interface, if it has one, is in one of the states asked for.
theorem longest_name_decides_tag :
    (∀ (dir : Directory) (id : String) (state : AdminState),
        dir.adminState? id = some state ↔
          ∃ description name row, dir.names[id]? = some description ∧ dir.Longest description name
            ∧ dir.row? name = some row ∧ AdminState.ofCode? row.code = some state)
      ∧ (∀ (dir : Directory) (id description name : String) (row : InterfaceRow),
          dir.names[id]? = some description → dir.Longest description name →
            dir.row? name = some row → AdminState.ofCode? row.code = none →
              dir.adminState? id = none)
      ∧ (∀ dir dir' : Directory, dir.names = dir'.names → dir.SameRows dir' →
          dir.adminState? = dir'.adminState?)
      ∧ ∀ tables : Tables,
          (∀ item sensor, (ofTables tables).get? .dBm item = some sensor →
            ∃ id, tables.entity? .dBm id = some sensor
              ∧ sensor.adminState = (Directory.ofTables tables).adminState? id)
          ∧ ∀ (discovery : OpticalDiscovery) (item : String),
              item ∈ (ofTables tables).opticalItems discovery ↔
                ∃ sensor, (ofTables tables).get? .dBm item = some sensor
                  ∧ Text.strip sensor.rawState = "1"
                  ∧ ∀ state, sensor.adminState = some state → discovery.states.contains state := by
  refine ⟨?tagged, ?untagged, ?order, fun tables => ⟨?entry, ?offered⟩⟩
  case tagged => exact fun _ _ _ => Directory.adminState?_eq_some_iff
  case untagged => exact fun _ _ _ _ _ => Directory.adminState?_eq_none
  case order =>
    intro dir dir' hn hs
    exact Directory.adminState?_congr hn fun description => by rw [hs.interface?_eq]
  case entry =>
    intro item sensor h
    have ⟨id, _, he⟩ := (get?_dBm_eq_some_iff ..).mp h
    exact ⟨id, he, Tables.adminState_of_entity? he⟩
  case offered =>
    intro discovery item
    rw [opticalItems, (offers_ofTables tables .dBm _).mem_iff]
    refine exists_congr fun sensor => and_congr_right fun h => ?_
    exact isOpticalItem_iff h discovery

-- A card with three ports, the name of each being the start of the next one's. The first port has
-- two rows, and the state of the third is not known.
def lineCard : Tables where
  descriptions := [["1", "Te1/1 Receive"], ["2", "Te1/10 Receive"], ["3", "Te1/100 Receive"]]
  sensorStates := [["1", "14", "9", "1", "-34", "1"], ["2", "14", "9", "1", "-41", "1"],
    ["3", "14", "9", "1", "-29", "1"]]
  adminStates := [["Te1/1", "2"], ["Te1/10", "2"], ["", "3"], ["Te1/100", "9"], ["Te1/1", " 1 "]]

def lineCardSorted : Tables where
  descriptions := lineCard.descriptions
  sensorStates := lineCard.sensorStates
  adminStates := [["", "3"], ["Te1/1", "2"], ["Te1/1", " 1 "], ["Te1/10", "2"], ["Te1/100", "9"]]

theorem lineCard_tagged :
    let dir := Directory.ofTables lineCard
    let dir' := Directory.ofTables lineCardSorted
    dir.adminState? "1" = some .up
      ∧ (dir.Longest "Te1/100 Receive" "Te1/100" ∧ dir.adminState? "3" = none)
      ∧ (dir.names = dir'.names ∧ dir.SameRows dir' ∧ dir.adminState? = dir'.adminState?)
      ∧ ∃ sensor, (ofTables lineCard).get? .dBm "Te1/10 Receive" = some sensor
        ∧ sensor.adminState = some .down
        ∧ (∃ id, lineCard.entity? .dBm id = some sensor ∧ sensor.adminState = dir.adminState? id)
        ∧ "Te1/10 Receive" ∈ (ofTables lineCard).opticalItems ⟨{ down := true }⟩
        ∧ "Te1/10 Receive" ∉ (ofTables lineCard).opticalItems {} := by
  intro dir dir'
  have ⟨ht, hu, ho, hc⟩ := longest_name_decides_tag
  have ⟨hc, hi⟩ := hc lineCard
  have hl : dir.Longest "Te1/100 Receive" "Te1/100" := by decide +kernel
  have hs : dir.SameRows dir' := by decide +kernel
  have h1 : dir.adminState? "1" = some .up := (ht dir "1" .up).mpr
    ⟨"Te1/1 Receive", "Te1/1", ⟨"Te1/1", " 1 "⟩, by decide +kernel⟩
  have h3 : dir.adminState? "3" = none := hu dir "3" "Te1/100 Receive" "Te1/100" ⟨"Te1/100", "9"⟩
    (by decide +kernel) hl (by decide +kernel) (by decide +kernel)
  have hp : ((ofTables lineCard).get? .dBm "Te1/10 Receive").map
      (fun sensor => (sensor.adminState, Text.strip sensor.rawState)) = some (some .down, "1") := by
    decide +kernel
  have ⟨sensor, hg, hp⟩ := Option.map_eq_some_iff.mp hp
  have ⟨ha, hw⟩ := Prod.mk.inj hp
  refine ⟨h1, ⟨hl, h3⟩, ⟨rfl, hs, ho dir dir' rfl hs⟩, sensor, hg, ha, hc _ _ hg, ?offered,
    ?skipped⟩
  case offered =>
    refine (hi ⟨{ down := true }⟩ _).mpr ⟨sensor, hg, hw, ?_⟩
    intro state hd
    rw [ha, Option.some.injEq] at hd
    rw [← hd]
    rfl
  case skipped =>
    intro h
    have ⟨_, hg', _, hd⟩ := (hi {} _).mp h
    cases hg.symm.trans hg'
    cases hd .down ha

end Section
end SensorWatch
