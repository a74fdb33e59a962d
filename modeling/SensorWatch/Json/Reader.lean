import SensorWatch.Json.NumberText

namespace SensorWatch.Json

def isBlank (c : Char) : Bool :=
  c = ' ' || c = '\n' || c = '\t' || c = '\r'

def skipBlanks (cs : List Char) : List Char :=
  cs.dropWhile isBlank

abbrev Read : Type :=
  Json × List Char

-- Where the text can not be followed the tree is broken, and what would still follow is left
-- out.
def halt : Read :=
  (.broken, [])

def hexDigit? (c : Char) : Option Nat :=
  if c.isDigit then some (c.toNat - '0'.toNat)
  else if 'a' ≤ c ∧ c ≤ 'f' then some (c.toNat - 'a'.toNat + 10)
  else if 'A' ≤ c ∧ c ≤ 'F' then some (c.toNat - 'A'.toNat + 10)
  else none

def hex4? : List Char → Option (Nat × List Char)
  | a :: b :: c :: d :: rest => do
    let a ← hexDigit? a
    let b ← hexDigit? b
    let c ← hexDigit? c
    let d ← hexDigit? d
    return (((a * 16 + b) * 16 + c) * 16 + d, rest)
  | _ => none

def shortEscape? : Char → Option Char
  | '"' => some '"'
  | '\\' => some '\\'
  | '/' => some '/'
  | 'b' => some '\x08'
  | 'f' => some '\x0c'
  | 'n' => some '\n'
  | 'r' => some '\r'
  | 't' => some '\t'
  | _ => none

def isHighSurrogate (n : Nat) : Bool :=
  0xD800 ≤ n && n < 0xDC00

def isLowSurrogate (n : Nat) : Bool :=
  0xDC00 ≤ n && n < 0xE000

def lowSurrogate? : List Char → Option (Nat × List Char)
  | '\\' :: 'u' :: cs => (hex4? cs).filter fun (n, _) => isLowSurrogate n
  | _ => none

-- The character of an escape, behind its backslash; none for half of a surrogate pair without the
-- other half.
def escape? : List Char → Option (Option Char × List Char)
  | 'u' :: cs => do
    let (n, rest) ← hex4? cs
    if isHighSurrogate n then
      match lowSurrogate? rest with
      | some (m, rest) =>
        return (some (.ofNat (0x10000 + (n - 0xD800) * 0x400 + (m - 0xDC00))), rest)
      | none => return (none, rest)
    else if isLowSurrogate n then
      return (none, rest)
    else
      return (some (.ofNat n), rest)
  | c :: cs => (shortEscape? c).map fun c => (some c, cs)
  | [] => none

-- The rest of a text, behind its opening quote. Every step takes at least one character.
def readText (fuel : Nat) (cs : List Char) : Read :=
  go fuel (some []) cs
where
  -- The characters so far come last first; there are none once half of a surrogate pair was met.
  go : Nat → Option (List Char) → List Char → Read
    | 0, _, _ | _, _, [] => halt
    | _, sofar, '"' :: rest =>
      ((sofar.map fun cs => Json.text (.ofList cs.reverse)).getD .loneSurrogate, rest)
    | fuel + 1, sofar, '\\' :: cs =>
      match escape? cs with
      | some (c, rest) => go fuel (do return (← c) :: (← sofar)) rest
      | none => halt
    | fuel + 1, sofar, c :: cs =>
      if c < ' ' then halt else go fuel (sofar.map (c :: ·)) cs

def readKey (fuel : Nat) (cs : List Char) : Read :=
  match skipBlanks cs with
  | '"' :: cs => readText fuel cs
  | _ => halt

def readWord (w : String) (j : Json) (cs : List Char) : Read :=
  if w.toList.isPrefixOf cs then (j, cs.drop w.length) else halt

def readNumber (cs : List Char) : Read :=
  match NumberText.read? cs with
  | some (t, rest) => (t.value, rest)
  | none => halt

mutual

-- One value. Of two steps at least one takes a character, so fuel for twice their number is enough.
def readValue : Nat → List Char → Read
  | 0, _ => halt
  | fuel + 1, cs =>
    match skipBlanks cs with
    | 'n' :: cs => readWord "ull" .null cs
    | 't' :: cs => readWord "rue" (.bool true) cs
    | 'f' :: cs => readWord "alse" (.bool false) cs
    | '"' :: cs => readText fuel cs
    | '[' :: cs => let (js, rest) := readItems fuel true cs; (.array js, rest)
    | '\x7b' :: cs => let (ms, rest) := readMembers fuel true cs; (.object ms, rest)
    | cs => readNumber cs

def readItems : Nat → Bool → List Char → List Json × List Char
  | 0, _, _ => ([.broken], [])
  | fuel + 1, isFirst, cs =>
    match isFirst, skipBlanks cs with
    | _, ']' :: cs => ([], cs)
    | true, cs | false, ',' :: cs =>
      let (j, rest) := readValue fuel cs
      let (js, rest) := readItems fuel false rest
      (j :: js, rest)
    | false, _ => ([.broken], [])

def readMembers : Nat → Bool → List Char → List (Json × Json) × List Char
  | 0, _, _ => ([(.broken, .broken)], [])
  | fuel + 1, isFirst, cs =>
    match isFirst, skipBlanks cs with
    | _, '\x7d' :: cs => ([], cs)
    | true, cs | false, ',' :: cs =>
      let (key, rest) := readKey fuel cs
      match skipBlanks rest with
      | ':' :: rest =>
        let (j, rest) := readValue fuel rest
        let (ms, rest) := readMembers fuel false rest
        ((key, j) :: ms, rest)
      | _ => ([(key, .broken)], [])
    | false, _ => ([(.broken, .broken)], [])

end

structure Document where
  root : Json
  ends : Bool

def Document.ofText (s : String) : Document :=
  let cs := s.toList
  let (root, rest) := readValue (2 * (cs.length + 1)) cs
  ⟨root, (skipBlanks rest).isEmpty⟩

end SensorWatch.Json
