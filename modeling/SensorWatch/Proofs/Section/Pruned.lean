import SensorWatch.Proofs.Section.Merge

namespace SensorWatch

def lacksNumber : List String → Bool
  | [_, _, _, value] => (Decimal.read? (Text.strip value)).isNone
  | _ => false

namespace Tables

variable (tables : Tables)

def pruned : Tables where
  descriptions := tables.descriptions.filter Table.descriptions.fits
  sensorStates := tables.sensorStates.filter Table.sensorStates.fits
  thresholds := tables.thresholds.filter fun texts =>
    Table.thresholds.fits texts && !lacksNumber texts
  envMon := tables.envMon.filter Table.envMon.fits
  adminStates := tables.adminStates.filter Table.adminStates.fits

def misfits (table : Table) : List (List String) :=
  (tables.rows table).filter (!table.fits ·)

end Tables

namespace Warning

def misfit (table : Table) (texts : List String) : Warning :=
  .skippedRow texts (.wrongWidth table texts.length)

def numberless (texts : List String) : Warning :=
  .skippedThreshold (Text.before '.' (texts.headD ""))
    (.notNumeric .thresholdValue (texts.getLastD ""))

end Warning

theorem ReadsWidth.log_readRows {α : Type} {read : List String → Except RowFault α}
    {table : Table} (h : ReadsWidth read table) (rows : List (List String)) :
    (readRows read rows).log = (rows.filter (!table.fits ·)).map (.misfit table) := by
  rw [SensorWatch.log_readRows]
  refine filterMap_eq_map_filter ?_ rows
  intro texts
  cases ht : table.fits texts
  case true =>
    have ⟨row, hr⟩ := h.exists_row ht
    rw [hr]
    rfl
  case false =>
    rw [h.read_eq_error ht]
    rfl

namespace ThresholdRow

variable {texts : List String}

theorem fits_of_lacksNumber (h : lacksNumber texts) : Table.thresholds.fits texts := by
  unfold lacksNumber at h
  split at h
  · rfl
  · cases h

theorem exists_fields (h : Table.thresholds.fits texts) :
    ∃ thresholdId severity relation value, texts = [thresholdId, severity, relation, value] :=
  match texts, of_decide_eq_true h with
  | [_, _, _, _], _ => ⟨_, _, _, _, rfl⟩

theorem exists_threshold (h : Table.thresholds.fits texts) (hn : lacksNumber texts = false) :
    ∃ row t, read texts = .ok row ∧ row.threshold = .ok t := by
  obtain ⟨_, severity, relation, value, rfl⟩ := exists_fields h
  have ⟨x, hx⟩ : ∃ x, Decimal.read? (Text.strip value) = some x :=
    Option.isSome_iff_exists.mp (Option.isNone_eq_false_iff.mp hn)
  let t : Threshold := ⟨Severity.ofCode? severity, Relation.ofCode? relation, x⟩
  exact ⟨_, t, rfl, by simp only [threshold, hx, t]⟩

theorem exists_fault (h : lacksNumber texts) : ∃ row fault, read texts = .ok row
    ∧ row.threshold = .error fault
    ∧ .numberless texts = Warning.skippedThreshold row.sensorId fault := by
  obtain ⟨_, _, _, value, rfl⟩ := exists_fields (fits_of_lacksNumber h)
  have hv : Decimal.read? (Text.strip value) = none := Option.isNone_iff_eq_none.mp h
  exact ⟨_, .notNumeric .thresholdValue value, rfl, by simp only [threshold, hv], rfl⟩

theorem filterMap_entry_filter (rows : List (List String)) :
    (readable read (rows.filter fun texts =>
        Table.thresholds.fits texts && !lacksNumber texts)).filterMap (·.entry.toOption)
      = (readable read rows).filterMap (·.entry.toOption) := by
  simp only [readable, List.filterMap_filterMap]
  refine filterMap_filter_of_none ?_ rows
  intro texts h
  cases hn : lacksNumber texts
  case true =>
    obtain ⟨row, fault, hr, ht, _⟩ := exists_fault hn
    simp [entry, hr, ht, Except.toOption, Except.map]
  case false =>
    rw [hn, Bool.not_false, Bool.and_true] at h
    rw [readsWidth.read_eq_error h, Except.toOption, Option.bind_none]

theorem log_collect_readable (rows : List (List String)) :
    (Logged.collect entry (.skippedThreshold ·.sensorId) (readable read rows)).log
      = (rows.filter lacksNumber).map .numberless := by
  rw [Logged.log_collect, readable, List.filterMap_filterMap]
  refine filterMap_eq_map_filter ?_ rows
  intro texts
  cases hn : lacksNumber texts
  case true =>
    obtain ⟨row, fault, hr, ht, hw⟩ := exists_fault hn
    simp [entry, hr, ht, hw, Except.toOption, Except.map, RowFault.of?]
  case false =>
    cases hf : Table.thresholds.fits texts
    case false => simp [readsWidth.read_eq_error hf, Except.toOption]
    case true =>
      obtain ⟨row, t, hr, ht⟩ := exists_threshold hf hn
      simp [entry, hr, ht, Except.toOption, Except.map, RowFault.of?]

end ThresholdRow

theorem Directory.ofTables_pruned (tables : Tables) : ofTables tables.pruned = ofTables tables := by
  simp only [ofTables_eq, Tables.descriptionRows, Tables.interfaceRows, Tables.thresholdRows,
    Tables.pruned, DescriptionRow.readsWidth.readable_filter,
    InterfaceRow.readsWidth.readable_filter, ThresholdRow.filterMap_entry_filter]

theorem Section.ofTables_pruned (tables : Tables) : ofTables tables.pruned = ofTables tables := by
  have he : tables.pruned.entityRows = tables.entityRows :=
    EntityRow.readsWidth.readable_filter tables.sensorStates
  have hm : tables.pruned.monitorRows = tables.monitorRows :=
    MonitorRow.readsWidth.readable_filter tables.envMon
  have hp : (ofTables tables.pruned).partitions = (ofTables tables).partitions := by
    simp only [partitions_ofTables, Tables.counterparts, Tables.entities,
      Directory.ofTables_pruned, he, hm]
  exact congrArg Section.mk hp

end SensorWatch
