import SensorWatch.Json.Reader
import SensorWatch.Number.Arithmetic

namespace SensorWatch.Json

abbrev Decoder (α : Type) : Type :=
  Json → Except Fault α

def ofReal (x : Binary64) : Json :=
  if x.isFinite then .real x else .null

def ofOption {α : Type} (toJson : α → Json) : Option α → Json
  | some a => toJson a
  | none => .null

namespace Decoder

variable {α : Type}

def text : Decoder String
  | .text s => .ok s
  | j => .error j.refuse

-- Integers are real numbers too.
def real : Decoder Binary64
  | .real x => .ok x
  | .integer i => .ok (.ofInt i)
  | j => .error j.refuse

def uint32 : Decoder UInt32
  | .integer i =>
    if 0 ≤ i ∧ i ≤ (IntRange.unsigned 32).greatest then .ok (.ofNat i.toNat) else .error .mismatch
  | j => .error j.refuse

def all (item : Decoder α) : List Json → Except Fault (List α)
  | [] => .ok []
  | j :: js =>
    match item j with
    | .error fault => .error fault
    | .ok a => (all item js).map (a :: ·)

def listOf (item : Decoder α) : Decoder (List α)
  | .array js => item.all js
  | j => .error j.refuse

def nullable (decoder : Decoder α) : Decoder (Option α)
  | .null => .ok none
  | j => (decoder j).map some

-- A value written by its name, or as an object with its name and null for its only member.
def oneOf (choices : List α) (name : α → String) : Decoder α
  | .text s => choose s
  | .object ((.text s, j) :: members) => do
    let a ← choose s
    match j, members with
    | .null, [] => .ok a
    | .null, _ => .error .malformed
    | j, _ => .error j.refuse
  | _ => .error .malformed
where
  choose (s : String) : Except Fault α :=
    match choices.find? (name · = s) with
    | some a => .ok a
    | none => .error .mismatch

-- Reads a whole text, behind whose value nothing may follow. What is wrong with the value counts
-- before what follows it.
def ofText (decoder : Decoder α) (s : String) : Except Fault α :=
  let document := Document.ofText s
  match decoder document.root with
  | .error fault => .error fault
  | .ok a => if document.ends then .ok a else .error .malformed

end Decoder
end SensorWatch.Json
