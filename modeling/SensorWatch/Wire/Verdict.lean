import SensorWatch.Check.Verdict
import SensorWatch.Json.Record
import SensorWatch.Wire.Names

namespace SensorWatch

open Json (Decoder Record)

namespace Metric

def record : Record Metric :=
  Metric.mk
    <$> Record.required "name" Decoder.text
    <*> Record.required "value" Decoder.real
    <*> Record.nullable "warn" Decoder.real
    <*> Record.nullable "crit" Decoder.real
    <*> Record.nullable "min" Decoder.real
    <*> Record.nullable "max" Decoder.real

def ofJson : Decoder Metric :=
  record.decoder

def toJson (metric : Metric) : Json :=
  .object [
    (.text "name", .text metric.name),
    (.text "value", .ofReal metric.value),
    (.text "warn", .ofOption Json.ofReal metric.warn),
    (.text "crit", .ofOption Json.ofReal metric.crit),
    (.text "min", .ofOption Json.ofReal metric.min),
    (.text "max", .ofOption Json.ofReal metric.max)]

end Metric

namespace Verdict

def record : Record Verdict :=
  Verdict.mk
    <$> Record.required "state" State.ofJson
    <*> Record.required "summary" Decoder.text
    <*> Record.required "metrics" (Decoder.listOf Metric.ofJson)

def ofJson : Decoder Verdict :=
  record.decoder

def members (verdict : Verdict) : List (Json × Json) :=
  [(.text "state", verdict.state.toJson),
   (.text "summary", .text verdict.summary),
   (.text "metrics", .array (verdict.metrics.map (·.toJson)))]

def toJson (verdict : Verdict) : Json :=
  .object verdict.members

def toItemJson (item : String) (verdict : Verdict) : Json :=
  .object ((.text "item", .text item) :: verdict.members)

end Verdict
end SensorWatch
