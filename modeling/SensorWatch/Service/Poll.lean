import SensorWatch.Wire.Params
import SensorWatch.Wire.Tables

namespace SensorWatch

open Json (Decoder Record)

structure TemperaturePoll where
  host : String
  tables : Tables := {}
  params : TemperatureParams := {}
  items : Option (List String) := none
  deriving DecidableEq

structure OpticalPoll where
  host : String
  tables : Tables := {}
  params : OpticalParams := {}
  discovery : Option OpticalDiscovery := none
  items : Option (List String) := none
  deriving DecidableEq

def itemsOfJson : Decoder (Option (List String)) :=
  .nullable (.listOf .text)

namespace TemperaturePoll

def record : Record TemperaturePoll :=
  TemperaturePoll.mk
    <$> Record.required "host" Decoder.text
    <*> Record.optional "tables" Tables.ofJson {}
    <*> Record.optional "params" TemperatureParams.ofJson {}
    <*> Record.optional "items" itemsOfJson none

def ofJson : Decoder TemperaturePoll :=
  record.decoder

variable (poll : TemperaturePoll)

def resolved : Section :=
  .ofTables poll.tables

def targets : List String :=
  poll.items.getD poll.resolved.temperatureItems

def run (now : Instant) (store : SampleStore) : List (String × Verdict) × SampleStore :=
  poll.resolved.checkTemperatures poll.params now poll.targets store

end TemperaturePoll

namespace OpticalPoll

def record : Record OpticalPoll :=
  OpticalPoll.mk
    <$> Record.required "host" Decoder.text
    <*> Record.optional "tables" Tables.ofJson {}
    <*> Record.optional "params" OpticalParams.ofJson {}
    <*> Record.optional "discovery" (Decoder.nullable OpticalDiscovery.ofJson) none
    <*> Record.optional "items" itemsOfJson none

def ofJson : Decoder OpticalPoll :=
  record.decoder

variable (poll : OpticalPoll)

def resolved : Section :=
  .ofTables poll.tables

def targets (default : OpticalDiscovery) : List String :=
  poll.items.getD (poll.resolved.opticalItems (poll.discovery.getD default))

def run (default : OpticalDiscovery) : List (String × Verdict) :=
  poll.resolved.checkPowers poll.params (poll.targets default)

end OpticalPoll
end SensorWatch
