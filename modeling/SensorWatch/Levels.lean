import SensorWatch.Number.Binary64
import SensorWatch.State

namespace SensorWatch

structure Levels where
  warn : Binary64
  crit : Binary64
  deriving DecidableEq

namespace Levels

variable (levels : Levels) (value : Binary64)

-- Upper levels are met from below and lower levels from above. A NaN meets none.
def upperState : State :=
  if levels.crit ≤ value then .crit
  else if levels.warn ≤ value then .warn
  else .ok

def lowerState : State :=
  if value ≤ levels.crit then .crit
  else if value ≤ levels.warn then .warn
  else .ok

def negated : Levels :=
  ⟨-levels.warn, -levels.crit⟩

end Levels

structure Limits where
  upper : Option Levels := none
  lower : Option Levels := none
  deriving DecidableEq

inductive Side where
  | upper
  | lower
  deriving DecidableEq

structure Breach where
  side : Side
  levels : Levels
  state : State
  deriving DecidableEq

namespace Limits

variable (limits : Limits) (value : Binary64)

def isNone : Bool :=
  limits.upper.isNone && limits.lower.isNone

def upperBreach? : Option Breach :=
  limits.upper.bind fun levels =>
    match levels.upperState value with
    | .ok => none
    | state => some ⟨.upper, levels, state⟩

def lowerBreach? : Option Breach :=
  limits.lower.bind fun levels =>
    match levels.lowerState value with
    | .ok => none
    | state => some ⟨.lower, levels, state⟩

-- The upper side is asked first: once it is breached, the lower side is not looked at.
def breach? : Option Breach :=
  limits.upperBreach? value <|> limits.lowerBreach? value

def state : State :=
  ((limits.breach? value).map (·.state)).getD .ok

end Limits

namespace Breach

def text (render : Binary64 → String) (breach : Breach) : String :=
  let word := match breach.side with
    | .upper => "at"
    | .lower => "below"
  " (warn/crit " ++ word ++ " " ++ render breach.levels.warn ++ "/"
    ++ render breach.levels.crit ++ ")"

end Breach

def Limits.text (limits : Limits) (render : Binary64 → String) (value : Binary64) : String :=
  ((limits.breach? value).map (·.text render)).getD ""

end SensorWatch
