import SensorWatch.Levels
import SensorWatch.Number.Arithmetic
import SensorWatch.Quantity
import SensorWatch.RowFault
import SensorWatch.Text.Blank

namespace SensorWatch

inductive Severity where
  | other
  | minor
  | major
  | critical
  deriving DecidableEq

namespace Severity

def name : Severity → String
  | other => "Other"
  | minor => "Minor"
  | major => "Major"
  | critical => "Critical"

def ofCode? (code : String) : Option Severity :=
  match Text.strip code with
  | "1" => some other
  | "10" => some minor
  | "20" => some major
  | "30" => some critical
  | _ => none

def read (code : String) : Except RowFault Severity :=
  match ofCode? code with
  | some severity => .ok severity
  | none => .error (.unknownCode .severity code)

end Severity

inductive Relation where
  | lessThan
  | lessOrEqual
  | greaterThan
  | greaterOrEqual
  | equalTo
  | notEqualTo
  deriving DecidableEq

namespace Relation

def name : Relation → String
  | lessThan => "LessThan"
  | lessOrEqual => "LessOrEqual"
  | greaterThan => "GreaterThan"
  | greaterOrEqual => "GreaterOrEqual"
  | equalTo => "EqualTo"
  | notEqualTo => "NotEqualTo"

def ofCode? (code : String) : Option Relation :=
  match Text.strip code with
  | "1" => some lessThan
  | "2" => some lessOrEqual
  | "3" => some greaterThan
  | "4" => some greaterOrEqual
  | "5" => some equalTo
  | "6" => some notEqualTo
  | _ => none

def read (code : String) : Except RowFault Relation :=
  match ofCode? code with
  | some relation => .ok relation
  | none => .error (.unknownCode .relation code)

end Relation

-- A threshold as declared, its value not scaled yet. A severity or relation with an unknown code is
-- `none`: the value may still count.
structure Threshold where
  severity : Option Severity
  relation : Option Relation
  value : Binary64
  deriving DecidableEq

namespace Threshold

def isGraded (t : Threshold) : Bool :=
  t.severity = some .minor || t.severity = some .major || t.severity = some .critical

structure Grades where
  minor : Option Binary64 := none
  major : Option Binary64 := none
  critical : Option Binary64 := none
  deriving DecidableEq

-- A later threshold of the same severity replaces an earlier one.
def Grades.record (grades : Grades) (t : Threshold) : Grades :=
  match t.severity with
  | some .minor => { grades with minor := some t.value }
  | some .major => { grades with major := some t.value }
  | some .critical => { grades with critical := some t.value }
  | _ => grades

-- Major thresholds are critical levels, and so are critical ones where there is no major one. Minor
-- thresholds are warning levels; without one a warning is critical at once.
def Grades.levels? (grades : Grades) (factor : Binary64) : Option Levels :=
  (grades.major <|> grades.critical).map fun crit =>
    ⟨(grades.minor.getD crit) * factor, crit * factor⟩

def marked? (relation : Relation) (factor : Binary64) (ts : List Threshold) : Option Levels :=
  ((ts.filter (·.relation = some relation)).foldl Grades.record {}).levels? factor

def magnitudes (factor : Binary64) (ts : List Threshold) : List Binary64 :=
  (ts.map (·.value * factor)).mergeSort fun x y => x.rank ≤ y.rank

-- Limits guessed from how many thresholds there are and from their sizes: four enclose a value from
-- both sides, two bound it from above.
def guessed (factor : Binary64) (ts : List Threshold) : Limits :=
  match magnitudes factor ts with
  | [critLower, warnLower, warnUpper, critUpper] =>
    { upper := some ⟨warnUpper, critUpper⟩, lower := some ⟨warnLower, critLower⟩ }
  | [warnUpper, critUpper] => { upper := some ⟨warnUpper, critUpper⟩ }
  | _ => {}

-- The limits of a sensor. What optical sensors declare as severity and relation is not reliable, so
-- their limits are always guessed.
def limits (quantity : Quantity) (factor : Binary64) (ts : List Threshold) : Limits :=
  match quantity with
  | .dBm => guessed factor ts
  | .celsius =>
    if ts.any isGraded then
      { upper := marked? .greaterOrEqual factor ts, lower := marked? .lessThan factor ts }
    else
      guessed factor (ts.filter (·.severity = some .other))
  | _ => {}

end Threshold
end SensorWatch
