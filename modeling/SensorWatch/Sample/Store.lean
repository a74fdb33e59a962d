import SensorWatch.ByName
import SensorWatch.Number.Binary64
import Std.Data.ExtTreeSet

namespace SensorWatch

-- Nanoseconds from the start of 1970.
structure Instant where
  nanos : Int
  deriving DecidableEq

def Instant.millisSince (later earlier : Instant) : Int :=
  (later.nanos - earlier.nanos).tdiv 1000000

structure Sample where
  time : Instant
  value : Binary64
  deriving DecidableEq

-- Samples of earlier polls, and the keys that were set since updates were last taken.
structure SampleStore where
  samples : ByName Sample := ∅
  written : Std.ExtTreeSet String := ∅

namespace SampleStore

-- A store to start with. Nothing in it counts as set.
def ofList (samples : List (String × Sample)) : SampleStore where
  samples := .ofPairs samples

variable (store : SampleStore)

def get? (key : String) : Option Sample :=
  store.samples[key]?

def set (key : String) (sample : Sample) : SampleStore where
  samples := store.samples.insert key sample
  written := store.written.insert key

-- The updates in the order of their keys, and the store without any. A key that had no sample would
-- have no update either.
def takeUpdates : List (String × Sample) × SampleStore :=
  (store.written.toList.filterMap fun key => store.samples[key]?.map (key, ·),
    { store with written := ∅ })

end SampleStore
end SensorWatch
