import SensorWatch.Proofs.Scale
import SensorWatch.Section.Entity
import SensorWatch.Section.Monitor

namespace Except

variable {ε α β : Type} {x : Except ε α}

theorem toOption_bind {f : α → Except ε β} :
    (x >>= f).toOption = x.toOption.bind fun a => (f a).toOption := by
  cases x <;> rfl

end Except

namespace SensorWatch

namespace EntityRow

theorem toOption_number (range : IntRange) (field : Field) (text : String) :
    (number range field text).toOption = range.read? (Text.strip text) := by
  rw [number]
  cases range.read? (Text.strip text) <;> rfl

structure Figures where
  scale : Scale
  precision : Int
  raw : Int

def figures? (row : EntityRow) : Option Figures := do
  let scale ← ((IntRange.unsigned 8).read? (Text.strip row.scale)).bind fun n =>
    Scale.ofNumber? n.toNat
  let precision ← (IntRange.signed 32).read? (Text.strip row.precision)
  let raw ← (IntRange.signed 64).read? (Text.strip row.value)
  return ⟨scale, precision, raw⟩

theorem toOption_measure (row : EntityRow) (quantity : Quantity) (ts : List Threshold) :
    (row.measure quantity ts).toOption
      = row.figures?.bind fun figures =>
          (figures.scale.factor figures.precision).toOption.map fun factor =>
            ⟨.ofInt figures.raw * factor, Threshold.limits quantity factor ts⟩ := by
  simp only [measure, figures?, Except.toOption_bind, Scale.toOption_read, toOption_number,
    Option.bind_eq_bind, Option.bind_assoc, Option.pure_def, Option.bind_some]
  refine Option.bind_congr fun _ _ => Option.bind_congr fun scale _ =>
    Option.bind_congr fun precision _ => Option.bind_congr fun raw _ => ?_
  cases h : scale.factor precision
  case error => rfl
  case ok factor => rw [Scale.physical_of_factor h]; rfl

end EntityRow

namespace MonitorRow

variable (row : MonitorRow) (entity : Option Sensor)

theorem toOption_reading :
    row.reading.toOption = ((IntRange.signed 64).read? (Text.strip row.value)).map .ofInt := by
  rw [reading]
  cases (IntRange.signed 64).read? (Text.strip row.value) <;> rfl

theorem toOption_limits :
    (row.limits entity).toOption
      = row.reading.toOption.bind fun _ =>
          (row.upper entity).toOption.map fun upper => ⟨upper, entity.bind (·.limits.lower)⟩ := by
  rw [limits]
  cases row.reading
  case error => rfl
  case ok => cases row.upper entity <;> rfl

end MonitorRow
end SensorWatch
