import Std.Data.ExtTreeMap

namespace SensorWatch

abbrev ByName (α : Type) : Type :=
  Std.ExtTreeMap String α

namespace ByName

variable {α : Type}

def values (table : ByName α) : List α :=
  table.toList.map (·.2)

-- Of two pairs with one key the later counts.
def ofPairs (pairs : List (String × α)) : ByName α :=
  pairs.foldl (fun table (key, value) => table.insert key value) ∅

end ByName
end SensorWatch
