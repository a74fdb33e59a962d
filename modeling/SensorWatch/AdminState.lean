import SensorWatch.Text.Blank
import SensorWatch.Text.Cut

namespace SensorWatch

inductive AdminState where
  | up
  | down
  | testing
  deriving DecidableEq

namespace AdminState

def all : List AdminState :=
  [up, down, testing]

def name : AdminState → String
  | up => "up"
  | down => "down"
  | testing => "testing"

def ofCode? (code : String) : Option AdminState :=
  match Text.strip code with
  | "1" => some up
  | "2" => some down
  | "3" => some testing
  | _ => none

def ofName? (name : String) : Option AdminState :=
  match Text.lower (Text.strip name) with
  | "up" => some up
  | "down" => some down
  | "testing" => some testing
  | _ => none

end AdminState

structure AdminSet where
  up : Bool := false
  down : Bool := false
  testing : Bool := false
  deriving DecidableEq

namespace AdminSet

def contains (set : AdminSet) : AdminState → Bool
  | .up => set.up
  | .down => set.down
  | .testing => set.testing

def insert (set : AdminSet) : AdminState → AdminSet
  | .up => { set with up := true }
  | .down => { set with down := true }
  | .testing => { set with testing := true }

def ofList (states : List AdminState) : AdminSet :=
  states.foldl insert {}

def toList (set : AdminSet) : List AdminState :=
  AdminState.all.filter set.contains

theorem contains_insert (set : AdminSet) (s t : AdminState) :
    (set.insert s).contains t = (s == t || set.contains t) := by
  cases s <;> cases t <;> rfl

end AdminSet
end SensorWatch
