import SensorWatch.Check.Handling
import SensorWatch.Check.TemperatureUnit
import SensorWatch.Check.Verdict
import SensorWatch.Sample.Trend
import SensorWatch.Section.Basic

namespace SensorWatch

-- What an operator asks of the check, in degrees Celsius.
structure TemperatureParams where
  limits : Limits := {}
  handling : Handling := .usrdefault
  unit : TemperatureUnit := .celsius
  trend : Option TrendParams := none
  deriving DecidableEq

def DeviceState.remark (device : DeviceState) : String :=
  if device.state = .ok then "" else ", State on device: " ++ device.text

def Trend.remark (trend : Trend) (unit : TemperatureUnit) (periodMinutes : UInt32) : String :=
  ", rate: " ++ (unit.difference trend.rate).signedFixed 1 ++ " " ++ unit.symbol
    ++ " per " ++ toString periodMinutes.toNat ++ " min"

structure TemperatureReading where
  value : Binary64
  limits : Limits
  device : DeviceState
  deriving DecidableEq

namespace TemperatureReading

variable (r : TemperatureReading) (params : TemperatureParams)

def comparison : Comparison :=
  let under (limits : Limits) := limits.comparison? params.unit.render r.value
  (params.handling.choose (under params.limits) (under r.limits)).getD {}

def verdict (trend : Option Trend) : Verdict where
  state :=
    ((r.comparison params).state.worst r.device.state).worst ((trend.map (·.state)).getD .ok)
  summary :=
    params.unit.render r.value ++ (r.comparison params).text ++ r.device.remark
      ++ (match trend, params.trend with
        | some trend, some trendParams => trend.remark params.unit trendParams.periodMinutes
        | _, _ => "")
  metrics := [.ofLevels "temp" r.value (r.comparison params).upper]

-- The trend up to the reading, and the store with the reading under the key. Without parameters for
-- it no trend is asked for, and the store is left alone.
def trend (key : String) (now : Instant) (store : SampleStore) : Option Trend × SampleStore :=
  match params.trend with
  | none => (none, store)
  | some trendParams => store.advance trendParams key ⟨now, r.value⟩

def check (name : String) (now : Instant) (store : SampleStore) : Verdict × SampleStore :=
  let (trend, store) := r.trend params (name ++ ".trend") now store
  (r.verdict params trend, store)

end TemperatureReading

def sampleName (item : String) : String :=
  "cisco_temperature_" ++ item

def Sensor.checkTemperature (sensor : Sensor) (params : TemperatureParams) (name : String)
    (now : Instant) (store : SampleStore) : Verdict × SampleStore :=
  match sensor.measured with
  | .error verdict => (verdict, store)
  | .ok value =>
    TemperatureReading.check ⟨value, sensor.limits, sensor.device⟩ params name now store

-- Should the sensor be offered as a temperature to check? A row of the environment monitor stays on
-- offer while it reports trouble, an entity sensor only as long as it is well.
def Sensor.isTemperatureItem (sensor : Sensor) : Bool :=
  !sensor.obsolete &&
    match sensor.source with
    | .entity => Text.strip sensor.rawState = "1"
    | .envMon => ["1", "2", "3", "4"].contains (Text.strip sensor.rawState)

namespace Section

variable (s : Section)

def temperatureItems : List String :=
  ((s.sensors .celsius).filter (·.isTemperatureItem)).map (·.item)

def checkTemperature (params : TemperatureParams) (now : Instant) (item : String)
    (store : SampleStore) : Option Verdict × SampleStore :=
  match s.get? .celsius item with
  | none => (none, store)
  | some sensor =>
    let (verdict, store) := sensor.checkTemperature params (sampleName item) now store
    (some verdict, store)

def checkTemperatures (params : TemperatureParams) (now : Instant) :
    List String → SampleStore → List (String × Verdict) × SampleStore
  | [], store => ([], store)
  | item :: items, store =>
    let (verdict, store) := s.checkTemperature params now item store
    let (rest, store) := checkTemperatures params now items store
    ((verdict.map (item, ·)).toList ++ rest, store)

end Section
end SensorWatch
