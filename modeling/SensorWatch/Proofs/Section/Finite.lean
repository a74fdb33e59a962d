import SensorWatch.Proofs.Number.Finite
import SensorWatch.Proofs.Number.Numeral
import SensorWatch.Proofs.Section.Merge
import SensorWatch.Proofs.Section.Numbers
import SensorWatch.Proofs.Threshold

namespace SensorWatch

namespace Tables

variable (tables : Tables)

structure Scales (row : EntityRow) (figures : EntityRow.Figures) (factor : Binary64) : Prop where
  mem_entityRows : row ∈ tables.entityRows
  figures_eq : row.figures? = some figures
  factor_eq : figures.scale.factor figures.precision = .ok factor

-- The row of the entity table that a sensor is registered by, of all that register its name,
inductive Registers (quantity : Quantity) (item : String) (sensor : Sensor) (row : EntityRow) : Prop
  | intro {id} :
    IsLeast (tables.bearers quantity item) id → tables.entity? quantity id = some sensor →
      tables.entityRow? quantity id = some row → Registers quantity item sensor row

-- and the one that registers the sensor whose levels are borrowed.
inductive Lends (quantity : Quantity) (item : String) (sensor : Sensor) (row : EntityRow) : Prop
  | intro {monitorRow entity} :
    quantity = .celsius → (tables.monitored item).head? = some monitorRow →
      tables.known? monitorRow.sensorId = some entity →
      tables.entityRow? .celsius monitorRow.sensorId = some row →
      sensor = monitorRow.sensor entity item → Lends quantity item sensor row

inductive IsReading (rows : EntityRow → Prop) : Binary64 → Prop
  | whole {n : Int} : n.natAbs ≤ Binary64.signUnit → IsReading rows (.ofInt n)
  | scaled {row figures factor} :
    rows row → tables.Scales row figures factor → IsReading rows (.ofInt figures.raw * factor)

inductive IsLevel (rows : EntityRow → Prop) : Binary64 → Prop
  | whole {n : Int} : n.natAbs ≤ Binary64.signUnit → IsLevel rows (.ofInt n)
  | scaled {row figures factor threshold} :
    rows row → tables.Scales row figures factor →
    threshold ∈ (Directory.ofTables tables).thresholdsOf row.sensorId →
      IsLevel rows (threshold.value * factor)

-- A sensor whose numbers all come from the tables: the reading from rows of its own, the levels from
-- these or from others.
structure Explains (own lent : EntityRow → Prop) (sensor : Sensor) : Prop where
  reading {x} : sensor.reading = some x → tables.IsReading own x
  level {x} : x ∈ sensor.limits.numbers → tables.IsLevel (fun row => own row ∨ lent row) x

theorem IsLevel.imp {tables : Tables} {rows rows' : EntityRow → Prop} {x : Binary64}
    (h : tables.IsLevel rows x) (hr : ∀ row, rows row → rows' row) : tables.IsLevel rows' x := by
  cases h
  case whole hn => exact .whole hn
  case scaled hrow hs ht => exact .scaled (hr _ hrow) hs ht

end Tables

theorem natAbs_le_of_read? {s : String} {n : Int} (h : (IntRange.signed 64).read? s = some n) :
    n.natAbs ≤ Binary64.signUnit := by
  have hb := IntRange.bounds_of_read? (by decide) (by decide) h
  have hl : (IntRange.signed 64).least = -Binary64.signUnit := by decide
  have hg : (IntRange.signed 64).greatest = Binary64.signUnit - 1 := by decide
  omega

theorem EntityRow.natAbs_raw_le {row : EntityRow} {figures : Figures}
    (h : row.figures? = some figures) : figures.raw.natAbs ≤ Binary64.signUnit := by
  simp only [figures?, Option.bind_eq_bind, Option.bind_eq_some_iff, Option.pure_def,
    Option.some.injEq] at h
  obtain ⟨_, _, _, _, raw, hr, hf⟩ := h
  exact hf ▸ natAbs_le_of_read? hr

theorem EntityRow.exists_of_measure {row : EntityRow} {quantity : Quantity} {ts : List Threshold}
    {m : Measurement} (h : (row.measure quantity ts).toOption = some m) :
    ∃ figures factor, row.figures? = some figures
      ∧ figures.scale.factor figures.precision = .ok factor
      ∧ m = ⟨.ofInt figures.raw * factor, Threshold.limits quantity factor ts⟩ := by
  rw [toOption_measure, Option.bind_eq_some_iff] at h
  have ⟨figures, hf, h⟩ := h
  have ⟨factor, hs, hm⟩ := Option.map_eq_some_iff.mp h
  exact ⟨figures, factor, hf, Except.toOption_eq_some_iff.mp hs, hm.symm⟩

variable {tables : Tables}

theorem Registration.explains {r : Registration} (hr : r.row ∈ tables.entityRows)
    {own : EntityRow → Prop} (ho : own r.row) (lent : EntityRow → Prop) :
    tables.Explains own lent (r.sensor (Directory.ofTables tables)) := by
  rw [sensor_eq]
  cases hm : r.measured? (Directory.ofTables tables)
  case none =>
    constructor
    · intro x hx
      cases hx
    · intro x hx
      cases hx
  case some m =>
    rw [measured?, Option.ite_none_right_eq_some] at hm
    obtain ⟨figures, factor, hf, hs, he⟩ := EntityRow.exists_of_measure hm.2
    have hsc : tables.Scales r.row figures factor := ⟨hr, hf, hs⟩
    subst he
    constructor
    · intro x hx
      cases hx
      exact .scaled ho hsc
    · intro x hx
      obtain ⟨t, ht, rfl⟩ := Threshold.exists_of_mem_limits hx
      exact .scaled (.inl ho) hsc ht

theorem MonitorRow.exists_of_upper {row : MonitorRow} {entity : Option Sensor} {levels : Levels}
    (h : row.upper entity = .ok (some levels)) :
    (∃ sensor, entity = some sensor ∧ sensor.limits.upper = some levels)
      ∨ ∃ n, (IntRange.signed 64).read? (Text.strip row.maxThreshold) = some n
        ∧ levels = ⟨.ofInt n, .ofInt n⟩ := by
  rw [upper] at h
  split at h
  case h_1 levels' hl =>
    cases h
    exact .inl (Option.bind_eq_some_iff.mp hl)
  case h_2 =>
    refine .inr ?_
    simp only [ownUpper] at h
    split at h
    case isTrue => cases h
    case isFalse =>
      split at h
      case h_1 n hn => grind
      case h_2 => cases h

theorem MonitorRow.explains {entity : Option Sensor} {own lent : EntityRow → Prop}
    (he : ∀ sensor, entity = some sensor → ∀ x ∈ sensor.limits.numbers, tables.IsLevel lent x)
    (row : MonitorRow) (item : String) :
    tables.Explains own lent (row.sensor entity item) := by
  have hb {sensor levels x} (hs : entity = some sensor)
      (hl : sensor.limits.upper = some levels ∨ sensor.limits.lower = some levels)
      (hx : x ∈ levels.numbers) : tables.IsLevel (fun row => own row ∨ lent row) x :=
    (he sensor hs x (Limits.mem_numbers_iff.mpr ⟨levels, hl, hx⟩)).imp fun _ => .inr
  rw [sensor_eq]
  constructor
  case reading =>
    intro x hx
    simp only [toOption_reading, Option.map_eq_some_iff] at hx
    obtain ⟨n, hn, hx⟩ := hx
    exact hx ▸ .whole (natAbs_le_of_read? hn)
  case level =>
    intro x hx
    cases hl : (row.limits entity).toOption
    case none => simp [hl, Limits.numbers] at hx
    case some limits =>
      rw [hl, Option.getD_some] at hx
      rw [toOption_limits, Option.bind_eq_some_iff] at hl
      obtain ⟨_, _, hm⟩ := hl
      obtain ⟨upper, hu, rfl⟩ := Option.map_eq_some_iff.mp hm
      obtain ⟨levels, rfl | hs, hv⟩ := Limits.mem_numbers_iff.mp hx
      case inl =>
        rcases exists_of_upper (Except.toOption_eq_some_iff.mp hu) with ⟨sensor, hs, hl⟩ | ⟨n, hn, hl⟩
        case inl => exact hb hs (.inl hl) hv
        case inr =>
          have hv : x = .ofInt n := by simpa [hl, Levels.numbers] using hv
          exact hv ▸ .whole (natAbs_le_of_read? hn)
      case inr =>
        obtain ⟨sensor, hs, hl⟩ := Option.bind_eq_some_iff.mp hs
        exact hb hs (.inr hl) hv

namespace Tables

variable {quantity : Quantity} {id item : String} {sensor : Sensor} {own lent : EntityRow → Prop}

theorem explains_tombstone (item rawState : String) :
    tables.Explains own lent (.tombstone item rawState) := by
  constructor
  all_goals
    intro x hx
    cases hx

theorem explains_of_entity? (h : tables.entity? quantity id = some sensor)
    (ho : ∀ row, tables.entityRow? quantity id = some row → own row) :
    tables.Explains own lent sensor := by
  obtain ⟨row, hrow, rfl⟩ := exists_entityRow h
  have hm : row ∈ tables.entityRows := List.mem_of_find?_eq_some hrow
  exact Registration.explains (r := ⟨row, quantity, tables.entityName id⟩) hm (ho row hrow) lent

theorem FirstBearer.explains (h : tables.FirstBearer quantity item sensor) :
    tables.Explains (tables.Registers quantity item sensor) lent sensor :=
  have ⟨_, hl, he⟩ := h
  explains_of_entity? he fun _ => .intro hl he

theorem Holds.explains (h : tables.Holds item sensor) :
    tables.Explains (tables.Registers .celsius item sensor) (tables.Lends .celsius item sensor)
      sensor := by
  cases h
  case tombstone row _ => exact explains_tombstone item row.state
  case monitor row _ hm =>
    refine row.explains ?_ item
    intro entity hk x hx
    have he := (Option.filter_eq_some_iff.mp hk).1
    have hl : tables.Explains (fun row' => tables.entityRow? .celsius row.sensorId = some row')
        (fun _ => False) entity :=
      explains_of_entity? he fun _ => id
    refine (hl.level hx).imp ?_
    intro row' hr
    exact .intro rfl hm hk (hr.resolve_right id) (by rw [hk])
  case entity hb => exact hb.explains

end Tables

namespace Tables.Scales

variable {row : EntityRow} {figures : EntityRow.Figures} {factor : Binary64}
  (h : tables.Scales row figures factor)

include h

theorem isFinite_factor : factor.isFinite = true := by
  have ⟨hl, hu, he⟩ := Scale.factor_eq_ok_iff.mp h.factor_eq
  exact he ▸ Binary64.isFinite_powerOfTen hl hu

theorem isFinite_raw : (Binary64.ofInt figures.raw).isFinite = true :=
  Binary64.isFinite_ofInt (EntityRow.natAbs_raw_le h.figures_eq)

theorem isFinite_mul_eq_false_iff {value : Binary64} :
    (value * factor).isFinite = false ↔ value.isFinite = false ∨ value.Overflows factor := by
  rw [← Bool.not_eq_true, Binary64.isFinite_mul_iff]
  have hf := h.isFinite_factor
  grind

end Tables.Scales

theorem Tables.IsReading.isNaN_eq_false {rows : EntityRow → Prop} {x : Binary64}
    (h : tables.IsReading rows x) : x.isNaN = false := by
  cases h
  case whole n _ => exact Binary64.isNaN_nearest ..
  case scaled hs =>
    rw [Binary64.mul_eq_nearest hs.isFinite_raw hs.isFinite_factor]
    exact Binary64.isNaN_nearest ..

namespace Section

variable {quantity : Quantity} {item : String} {sensor : Sensor}

theorem explains (h : (ofTables tables).get? quantity item = some sensor) :
    tables.Explains (tables.Registers quantity item sensor) (tables.Lends quantity item sensor)
      sensor := by
  rcases origin_of_get? h with ⟨rfl, hh⟩ | ⟨rfl, hb⟩
  · exact hh.explains
  · exact hb.explains

-- A section takes a product for a number whether or not it is one. A reading is infinite exactly if
-- the number of the row that registers the sensor, scaled, is out of range; with an exponent of 289
-- or less it is not. A level is not finite exactly if such a product of a threshold is not, or if
-- already the threshold was not.
theorem isFinite_eq_false_iff (h : (ofTables tables).get? quantity item = some sensor) :
    (∀ x, sensor.reading = some x → x.isNaN = false
      ∧ (x.isFinite = false ↔ ∃ row figures factor,
          tables.Registers quantity item sensor row ∧ tables.Scales row figures factor
            ∧ x = .ofInt figures.raw * factor ∧ (Binary64.ofInt figures.raw).Overflows factor)
      ∧ ((∀ row figures, tables.Registers quantity item sensor row →
            row.figures? = some figures → figures.scale.exponent - figures.precision ≤ 289) →
          x.isFinite = true))
    ∧ ∀ x ∈ sensor.limits.numbers,
      (x.isFinite = false ↔ ∃ row figures factor,
        (tables.Registers quantity item sensor row ∨ tables.Lends quantity item sensor row)
          ∧ tables.Scales row figures factor
          ∧ ∃ t ∈ (Directory.ofTables tables).thresholdsOf row.sensorId, x = t.value * factor
            ∧ (t.value.isFinite = false ∨ t.value.Overflows factor)) := by
  have he := explains h
  constructor
  · intro x hx
    have hr := he.reading hx
    refine ⟨hr.isNaN_eq_false, ⟨?_, ?_⟩, ?_⟩
    · intro hf
      cases hr
      case whole n hn => simp [Binary64.isFinite_ofInt hn] at hf
      case scaled ho hs =>
        have hv := hs.isFinite_mul_eq_false_iff.mp hf
        rw [hs.isFinite_raw] at hv
        exact ⟨_, _, _, ho, hs, rfl, hv.resolve_left nofun⟩
    · rintro ⟨row, figures, factor, _, hs, rfl, ho⟩
      exact hs.isFinite_mul_eq_false_iff.mpr (.inr ho)
    · intro hexp
      cases hr
      case whole n hn => exact Binary64.isFinite_ofInt hn
      case scaled ho hs =>
        have ⟨hl, _, hf⟩ := Scale.factor_eq_ok_iff.mp hs.factor_eq
        have hraw := EntityRow.natAbs_raw_le hs.figures_eq
        exact hf ▸ Binary64.isFinite_ofInt_mul_powerOfTen hraw hl (hexp _ _ ho hs.figures_eq)
  · intro x hx
    constructor
    · intro hf
      cases he.level hx
      case whole n hn => simp [Binary64.isFinite_ofInt hn] at hf
      case scaled ho hs ht =>
        exact ⟨_, _, _, ho, hs, _, ht, rfl, hs.isFinite_mul_eq_false_iff.mp hf⟩
    · rintro ⟨row, figures, factor, _, hs, t, ht, rfl, ho⟩
      exact hs.isFinite_mul_eq_false_iff.mpr ho

-- A precision that is still accepted takes a small number out of range.
def overrange : Tables where
  descriptions := [["7", "Inlet"]]
  sensorStates := [["7", "8", "9", "-308", "33", "1"]]

def overrangeInlet : Sensor where
  item := "Inlet"
  quantity := .celsius
  description := "Inlet"
  source := .entity
  rawState := "1"
  reading := some (.infinity false)
  device := ⟨.ok, "OK"⟩

theorem overrange_scales :
    (ofTables overrange).get? .celsius "Inlet" = some overrangeInlet
      ∧ overrangeInlet.reading = some (.infinity false)
      ∧ ∃ row figures factor, overrange.Registers .celsius "Inlet" overrangeInlet row
        ∧ overrange.Scales row figures factor
        ∧ .infinity false = .ofInt figures.raw * factor
        ∧ (Binary64.ofInt figures.raw).Overflows factor := by
  have hs : (ofTables overrange).get? .celsius "Inlet" = some overrangeInlet := by decide +kernel
  have hr : overrangeInlet.reading = some (.infinity false) := rfl
  exact ⟨hs, hr, ((isFinite_eq_false_iff hs).1 _ hr).2.1.mp (by decide)⟩

theorem not_forall_isFinite :
    ¬∀ (tables : Tables) (quantity : Quantity) (item : String) (sensor : Sensor),
      (ofTables tables).get? quantity item = some sensor →
        (∀ x, sensor.reading = some x → x.isFinite = true)
          ∧ ∀ x ∈ sensor.limits.numbers, x.isFinite = true := by
  intro finite
  have hs : (ofTables overrange).get? .celsius "Inlet" = some overrangeInlet := by decide +kernel
  have hf := (finite overrange .celsius "Inlet" overrangeInlet hs).1 _ rfl
  exact absurd hf (by decide)

end Section
end SensorWatch
