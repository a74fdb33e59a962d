import SensorWatch.Json.Decoder

namespace SensorWatch.Json

structure Field where
  name : String
  fault? : Json → Option Fault
  -- May an array end in front of the field?
  mayLack : Bool

def Field.of {α : Type} (name : String) (decoder : Decoder α) (mayLack : Bool) : Field where
  name := name
  fault? j := match decoder j with
    | .ok _ => none
    | .error fault => some fault
  mayLack := mayLack

-- The fields of a record, and how it is built from the values found for them.
structure Record (α : Type) where
  fields : List Field
  build : (String → Option Json) → Except Fault α

namespace Record

variable {α : Type}

instance : Applicative Record where
  pure a := ⟨[], fun _ => .ok a⟩
  seq f x := ⟨f.fields ++ (x ()).fields, fun find => f.build find <*> (x ()).build find⟩

def required (name : String) (decoder : Decoder α) : Record α where
  fields := [.of name decoder false]
  build find := match find name with
    | some j => decoder j
    | none => .error .mismatch

def optional (name : String) (decoder : Decoder α) (default : α) : Record α where
  fields := [.of name decoder true]
  build find := match find name with
    | some j => decoder j
    | none => .ok default

-- A field that an object may leave out for null. An array has to hold it.
def nullable (name : String) (decoder : Decoder α) : Record (Option α) where
  fields := [.of name decoder.nullable false]
  build find := match find name with
    | some j => decoder.nullable j
    | none => .ok none

-- An object is read in the order of its members. A member that is no field is skipped, a field
-- that comes twice is a fault.
def ofMembers (fields : List Field) (found : List (String × Json)) :
    List (Json × Json) → Except Fault (List (String × Json))
  | [] => .ok found
  | (.text key, j) :: members =>
    match fields.find? (·.name = key) with
    | none => if j.isComplete then ofMembers fields found members else .error .malformed
    | some field =>
      if (found.lookup key).isSome then .error .mismatch
      else match field.fault? j with
        | some fault => .error fault
        | none => ofMembers fields ((key, j) :: found) members
  | _ => .error .malformed

def ofItems : List Field → List Json → Except Fault (List (String × Json))
  | [], [] => .ok []
  | [], _ :: _ => .error .malformed
  | fields@(_ :: _), [] => if fields.all (·.mayLack) then .ok [] else .error .mismatch
  | field :: fields, j :: items =>
    match field.fault? j with
    | some fault => .error fault
    | none => (ofItems fields items).map ((field.name, j) :: ·)

def decoder (record : Record α) : Decoder α
  | .object members => do record.build ((← ofMembers record.fields [] members).lookup ·)
  | .array items => do record.build ((← ofItems record.fields items).lookup ·)
  | j => .error j.refuse

end Record
end SensorWatch.Json
