import SensorWatch.Scale

namespace SensorWatch.Scale

theorem toOption_read (code : String) :
    (read code).toOption
      = ((IntRange.unsigned 8).read? (Text.strip code)).bind fun n => ofNumber? n.toNat := by
  rw [read]
  generalize ((IntRange.unsigned 8).read? (Text.strip code)).bind _ = scale
  cases scale <;> rfl

-- A difference that overflows is far outside the exponents that count.
theorem power?_eq (scale : Scale) (precision : Int) :
    scale.power? precision
      = if -308 ≤ scale.exponent - precision ∧ scale.exponent - precision ≤ 308 then
          some (scale.exponent - precision)
        else none := by
  have hl : (IntRange.signed 32).least = -2147483648 := by decide
  have hg : (IntRange.signed 32).greatest = 2147483647 := by decide
  grind [power?, IntRange.checked?]

theorem factor_eq_ok_iff {scale : Scale} {precision : Int} {factor : Binary64} :
    scale.factor precision = .ok factor ↔
      -308 ≤ scale.exponent - precision ∧ scale.exponent - precision ≤ 308
        ∧ factor = .powerOfTen (scale.exponent - precision) := by
  rw [Scale.factor, power?_eq]
  grind

-- A reading is scaled by the factor that scales the thresholds.
theorem physical_of_factor {scale : Scale} {precision : Int} {factor : Binary64}
    (h : scale.factor precision = .ok factor) (raw : Int) :
    scale.physical precision raw = .ok (.ofInt raw * factor) := by
  rw [physical, h]
  rfl

end SensorWatch.Scale
