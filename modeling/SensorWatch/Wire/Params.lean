import SensorWatch.Check.Optical
import SensorWatch.Check.Temperature
import SensorWatch.Json.Record
import SensorWatch.Wire.Names

namespace SensorWatch

open Json (Decoder Record)

namespace Levels

-- A pair of numbers. A third one is a fault of the text, as the end of the pair was awaited there.
def ofJson : Decoder Levels
  | .array [] => .error .mismatch
  | .array (warn :: items) => do
    let warn ← Decoder.real warn
    match items with
    | [] => .error .mismatch
    | crit :: more =>
      let crit ← Decoder.real crit
      if more.isEmpty then .ok ⟨warn, crit⟩ else .error .malformed
  | j => .error j.refuse

def toJson (levels : Levels) : Json :=
  .array [.ofReal levels.warn, .ofReal levels.crit]

end Levels

namespace LevelsSetting

-- The containers that may stand in one another in a text of JSON, and those among them that stand
-- around a setting.
def deepest : Nat :=
  127

def around : Nat :=
  2

-- A setting is read as a whole before it is known for one of its three forms.
def ofJson : Decoder LevelsSetting := fun j =>
  if !j.isReadable (deepest - around) then .error .malformed
  else match j with
    | .bool true => .ok .device
    | .bool false => .ok .off
    | _ =>
      match Levels.ofJson j with
      | .ok levels => .ok (.fixed levels)
      | .error _ => .error .mismatch

def toJson : LevelsSetting → Json
  | device => .bool true
  | off => .bool false
  | fixed levels => levels.toJson

end LevelsSetting

namespace TrendParams

def record : Record TrendParams :=
  (fun periodMinutes upper lower => ⟨periodMinutes, upper, lower⟩)
    <$> Record.required "period_minutes" Decoder.uint32
    <*> Record.optional "levels_upper" (Decoder.nullable Levels.ofJson) none
    <*> Record.optional "levels_lower" (Decoder.nullable Levels.ofJson) none

def ofJson : Decoder TrendParams :=
  record.decoder

def toJson (params : TrendParams) : Json :=
  .object [
    (.text "period_minutes", .integer params.periodMinutes.toNat),
    (.text "levels_upper", .ofOption Levels.toJson params.upper),
    (.text "levels_lower", .ofOption Levels.toJson params.lower)]

end TrendParams

namespace TemperatureParams

def record : Record TemperatureParams :=
  (fun upper lower handling unit trend => ⟨⟨upper, lower⟩, handling, unit, trend⟩)
    <$> Record.optional "levels" (Decoder.nullable Levels.ofJson) none
    <*> Record.optional "levels_lower" (Decoder.nullable Levels.ofJson) none
    <*> Record.optional "device_levels_handling" Handling.ofJson .usrdefault
    <*> Record.optional "output_unit" TemperatureUnit.ofJson .celsius
    <*> Record.optional "trend" (Decoder.nullable TrendParams.ofJson) none

def ofJson : Decoder TemperatureParams :=
  record.decoder

def toJson (params : TemperatureParams) : Json :=
  .object [
    (.text "levels", .ofOption Levels.toJson params.limits.upper),
    (.text "levels_lower", .ofOption Levels.toJson params.limits.lower),
    (.text "device_levels_handling", params.handling.toJson),
    (.text "output_unit", params.unit.toJson),
    (.text "trend", .ofOption TrendParams.toJson params.trend)]

end TemperatureParams

namespace OpticalParams

def record : Record OpticalParams :=
  OpticalParams.mk
    <$> Record.optional "power_levels_upper" LevelsSetting.ofJson .device
    <*> Record.optional "power_levels_lower" LevelsSetting.ofJson .device

def ofJson : Decoder OpticalParams :=
  record.decoder

def toJson (params : OpticalParams) : Json :=
  .object [
    (.text "power_levels_upper", params.upper.toJson),
    (.text "power_levels_lower", params.lower.toJson)]

end OpticalParams

namespace OpticalDiscovery

def record : Record OpticalDiscovery :=
  OpticalDiscovery.mk <$> Record.required "admin_states" AdminSet.ofJson

def ofJson : Decoder OpticalDiscovery :=
  record.decoder

def toJson (discovery : OpticalDiscovery) : Json :=
  .object [(.text "admin_states", discovery.states.toJson)]

end OpticalDiscovery
end SensorWatch
