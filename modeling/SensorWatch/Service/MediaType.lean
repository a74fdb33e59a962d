import SensorWatch.Text.Cut

namespace SensorWatch.MediaType

def isTokenChar (c : Char) : Bool :=
  c.isAlphanum || "!#$%&'*+-.^_|~\x60".toList.contains c

def isQuotable (c : Char) : Bool :=
  ' ' ≤ c && c ≤ '~'

inductive Spot where
  | gap
  | name
  | valueStart
  | value
  | quoteStart
  | quoted
  | behindQuote
  deriving DecidableEq

namespace Spot

-- Where a character leads to. Between quotes a backslash is a character like any other. A quote
-- right behind the opening one does not close it.
def next? : Spot → Char → Option Spot
  | gap, ' ' => some gap
  | gap, c => if isTokenChar c then some name else none
  | name, '=' => some valueStart
  | name, c => if isTokenChar c then some name else none
  | valueStart, '"' => some quoteStart
  | valueStart, c => if isTokenChar c then some value else none
  | value, ';' => some gap
  | value, c => if isTokenChar c then some value else none
  | quoted, '"' => some behindQuote
  | quoteStart, c | quoted, c => if isQuotable c then some quoted else none
  | behindQuote, ';' => some gap
  | behindQuote, ' ' => some behindQuote
  | behindQuote, _ => none

def mayEnd : Spot → Bool
  | gap | valueStart | value | behindQuote => true
  | _ => false

end Spot

def areParameters (cs : List Char) : Bool :=
  ((cs.foldlM Spot.next? .gap).map (·.mayEnd)).getD false

-- Does a subtype name JSON, in front of its last plus sign or behind it? A plus sign at the very
-- start marks no suffix.
def isJsonSubtype (subtype : String) : Bool :=
  match Text.aroundLast? '+' subtype with
  | some (base, suffix) => !base.isEmpty && (base = "json" || suffix = "json")
  | none => subtype = "json"

def isJson (s : String) : Bool :=
  let top := s.toList.takeWhile isTokenChar
  match s.toList.dropWhile isTokenChar with
  | '/' :: rest =>
    let sub := rest.takeWhile isTokenChar
    Text.lower (.ofList top) = "application" && isJsonSubtype (Text.lower (.ofList sub))
      && match rest.dropWhile isTokenChar with
        | [] => true
        | ';' :: parameters => areParameters parameters
        | _ => false
  | _ => false

end SensorWatch.MediaType
