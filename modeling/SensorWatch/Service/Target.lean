import SensorWatch.Text.Cut

namespace SensorWatch.Target

def sizeLimit : Nat :=
  65534

def isSchemeChar (c : Char) : Bool :=
  c.isAlphanum || "+-.~".toList.contains c

def isPathChar (c : Char) : Bool :=
  ' ' < c && !"<>\x60".toList.contains c

def isQueryChar (c : Char) : Bool :=
  ' ' < c && !"<>\"".toList.contains c

def pathOf? (cs : List Char) : Option String :=
  let shown := cs.takeWhile (· != '#')
  let path := shown.takeWhile (· != '?')
  let query := (shown.dropWhile (· != '?')).drop 1
  if path.all isPathChar && query.all isQueryChar then some (.ofList path) else none

-- What has been seen of an authority: its brackets, and what came since the last at sign or closing
-- bracket.
structure Authority where
  colons : Nat := 0
  percent : Bool := false
  opened : Bool := false
  closed : Bool := false
  deriving DecidableEq

namespace Authority

def isPlainChar (c : Char) : Bool :=
  c.isAlphanum || "!$&'()*+,-.;=_~".toList.contains c

-- What a character changes. There is one pair of brackets at most, and it never nests.
def next? (seen : Authority) : Char → Option Authority
  | ':' => if seen.colons < 8 then some { seen with colons := seen.colons + 1 } else none
  | '[' => if seen.percent || seen.opened then none else some { seen with opened := true }
  | ']' => if seen.opened && !seen.closed then some { opened := true, closed := true } else none
  | '@' => some { seen with colons := 0, percent := false }
  | '%' => some { seen with percent := true }
  | c => if isPlainChar c then some seen else none

def mayEnd (seen : Authority) : Bool :=
  seen.opened == seen.closed && seen.colons ≤ 1 && !seen.percent

end Authority

-- Is this an authority? An empty one is none, and behind an at sign there is a host.
def isAuthority (cs : List Char) : Bool :=
  !cs.isEmpty && cs.getLast? != some '@'
    && ((cs.foldlM Authority.next? {}).map (·.mayEnd)).getD false

def afterScheme? (cs : List Char) : Option (Nat × List Char) :=
  match cs.dropWhile isSchemeChar with
  | ':' :: '/' :: '/' :: rest => some ((cs.takeWhile isSchemeChar).length, rest)
  | _ => none

def isAuthorityEnd (c : Char) : Bool :=
  c = '/' || c = '?' || c = '#'

def pathOfAddress? (length : Nat) (rest : List Char) : Option String :=
  if 64 < length || !isAuthority (rest.takeWhile (!isAuthorityEnd ·)) then none
  else (pathOf? (rest.dropWhile (!isAuthorityEnd ·))).map fun path =>
    if path.isEmpty then "/" else path

-- The path of a target, unless the target is malformed. An authority alone has an empty path, and
-- the target of all paths, an asterisk, stands for itself.
def path? (s : String) : Option String :=
  if sizeLimit < s.utf8ByteSize then none
  else match s.toList with
    | ['*'] => some "*"
    | '/' :: cs => pathOf? ('/' :: cs)
    | cs =>
      match afterScheme? cs with
      | some (length, rest) => pathOfAddress? length rest
      | none => if isAuthority cs then some "" else none

end SensorWatch.Target
