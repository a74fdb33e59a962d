import SensorWatch.Sample.Store

namespace SensorWatch

structure SampleRow where
  host : String
  key : String
  sample : Sample
  deriving DecidableEq

-- For every host the last sample under every key.
structure SampleTable where
  hosts : ByName (ByName Sample) := ∅

namespace SampleTable

variable (table : SampleTable)

def rowsOf (host : String) : ByName Sample :=
  table.hosts[host]?.getD ∅

def put (row : SampleRow) : SampleTable where
  hosts := table.hosts.insert row.host ((table.rowsOf row.host).insert row.key row.sample)

def putAll (rows : List SampleRow) : SampleTable :=
  rows.foldl put table

def ofList (rows : List SampleRow) : SampleTable :=
  ({} : SampleTable).putAll rows

def toList : List SampleRow :=
  table.hosts.toList.flatMap fun (host, samples) =>
    samples.toList.map fun (key, sample) => ⟨host, key, sample⟩

theorem rowsOf_put_self (row : SampleRow) :
    (table.put row).rowsOf row.host = (table.rowsOf row.host).insert row.key row.sample := by
  simp [put, rowsOf]

theorem rowsOf_put_of_ne {row : SampleRow} {host} (h : row.host ≠ host) :
    (table.put row).rowsOf host = table.rowsOf host := by
  simp [put, rowsOf, Std.ExtTreeMap.getElem?_insert, h]

def load (host : String) : SampleStore where
  samples := table.rowsOf host

end SampleTable
end SensorWatch
