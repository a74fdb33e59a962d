import SensorWatch.Json.Record
import SensorWatch.Row

namespace SensorWatch.Tables

open Json (Decoder Record)

def rowsOfJson : Decoder (List (List String)) :=
  .listOf (.listOf .text)

def record : Record Tables :=
  Tables.mk
    <$> Record.optional Table.descriptions.name rowsOfJson []
    <*> Record.optional Table.sensorStates.name rowsOfJson []
    <*> Record.optional Table.thresholds.name rowsOfJson []
    <*> Record.optional Table.envMon.name rowsOfJson []
    <*> Record.optional Table.adminStates.name rowsOfJson []

def ofJson : Decoder Tables :=
  record.decoder

end SensorWatch.Tables
