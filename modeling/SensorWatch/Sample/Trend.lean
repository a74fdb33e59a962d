import SensorWatch.Levels
import SensorWatch.Number.Arithmetic
import SensorWatch.Sample.Store

namespace SensorWatch

-- The levels of falling values are given as positive numbers.
structure TrendParams where
  periodMinutes : UInt32
  upper : Option Levels := none
  lower : Option Levels := none
  deriving DecidableEq

structure Trend where
  rate : Binary64
  state : State
  deriving DecidableEq

namespace TrendParams

variable (params : TrendParams)

def state (rate : Binary64) : State :=
  let rising := (params.upper.map (·.upperState rate)).getD .ok
  let falling := (params.lower.map (·.negated.lowerState rate)).getD .ok
  rising.worst falling

-- The change per period, with all roundings in the order of the operations.
def rate (change : Binary64) (millis : Int) : Binary64 :=
  change / (.ofInt millis / .ofInt 1000) * .ofInt params.periodMinutes.toNat * .ofInt 60

-- The trend from one sample to another. There is none unless a whole millisecond has gone by.
def trend? (earlier later : Sample) : Option Trend :=
  let millis := later.time.millisSince earlier.time
  if 0 < millis then
    let rate := params.rate (later.value - earlier.value) millis
    some ⟨rate, params.state rate⟩
  else
    none

end TrendParams

def SampleStore.advance (store : SampleStore) (params : TrendParams) (key : String)
    (sample : Sample) : Option Trend × SampleStore :=
  ((store.get? key).bind (params.trend? · sample), store.set key sample)

end SensorWatch
