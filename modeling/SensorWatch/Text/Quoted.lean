import SensorWatch.Text.Unprintable

namespace SensorWatch.Text

-- A backslash stands in front of whatever a reader could not see or could take for the closing
-- quote.
def escape (c : Char) : List Char :=
  if c = '"' then ['\\', '"']
  else if c = '\\' then ['\\', '\\']
  else if c = '\n' then ['\\', 'n']
  else if c = '\r' then ['\\', 'r']
  else if c = '\t' then ['\\', 't']
  else if c = '\x00' then ['\\', '0']
  else if isUnprintable c then '\\' :: 'u' :: '{' :: Nat.toDigits 16 c.toNat ++ ['}']
  else [c]

def quoted (s : String) : String :=
  String.ofList ('"' :: s.toList.flatMap escape ++ ['"'])

def quotedRow (row : List String) : String :=
  "[" ++ ", ".intercalate (row.map quoted) ++ "]"

end SensorWatch.Text
