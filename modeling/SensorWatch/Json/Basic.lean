import SensorWatch.Number.Binary64

namespace SensorWatch

-- Integers of 64 bits are kept apart from other numbers. A tree also says where its text can not
-- be followed, so that whoever looks at one part of it can still tell what is wrong with that
-- part and need not know of the rest.
inductive Json where
  | null
  | bool (b : Bool)
  | integer (i : Int)
  | real (x : Binary64)
  | text (s : String)
  | array (items : List Json)
  -- Members in their order. A key is a text, and broken where none stands in its place.
  | object (members : List (Json × Json))
  -- A text with half of a surrogate pair in it. It can be skipped, but not read.
  | loneSurrogate
  -- A number too large to be kept. It can be skipped, but not read.
  | outOfRange
  -- Where a value should stand, or go on, the text breaks off. Nothing after it belongs to the
  -- tree.
  | broken

namespace Json

-- What reading a value of the wrong kind comes to: a text or a number has to be readable before its
-- kind counts, of an array or object only the kind is looked at.
inductive Fault where
  -- The text is not the text of a value.
  | malformed
  -- The text is that of a value, but of none that is wanted here.
  | mismatch
  deriving DecidableEq

def refuse : Json → Fault
  | loneSurrogate | outOfRange | broken => .malformed
  | _ => .mismatch

mutual

-- Is the value there in full, so that it can be skipped?
def isComplete : Json → Bool
  | broken => false
  | array items => areComplete items
  | object members => membersComplete members
  | _ => true

def areComplete : List Json → Bool
  | [] => true
  | j :: js => j.isComplete && areComplete js

def membersComplete : List (Json × Json) → Bool
  | [] => true
  | (text _, j) :: ms | (loneSurrogate, j) :: ms => j.isComplete && membersComplete ms
  | _ => false

end

mutual

def isReadable : Json → Nat → Bool
  | loneSurrogate, _ | outOfRange, _ | broken, _ => false
  | array _, 0 | object _, 0 => false
  | array items, depth + 1 => areReadable items depth
  | object members, depth + 1 => membersReadable members depth
  | _, _ => true

def areReadable : List Json → Nat → Bool
  | [], _ => true
  | j :: js, depth => j.isReadable depth && areReadable js depth

def membersReadable : List (Json × Json) → Nat → Bool
  | [], _ => true
  | (text _, j) :: ms, depth => j.isReadable depth && membersReadable ms depth
  | _, _ => false

end

end Json
end SensorWatch
