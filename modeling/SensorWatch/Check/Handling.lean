import SensorWatch.Levels

namespace SensorWatch

inductive Handling where
  | usr
  | dev
  | best
  | worst
  | usrdefault
  | devdefault
  deriving DecidableEq

structure Comparison where
  state : State := .ok
  text : String := ""
  upper : Option Levels := none
  deriving DecidableEq

namespace Limits

variable (limits : Limits) (render : Binary64 → String) (value : Binary64)

def comparison : Comparison where
  state := limits.state value
  text := limits.text render value
  upper := limits.upper

-- Limits with levels on no side are not compared with at all.
def comparison? : Option Comparison :=
  if limits.isNone then none else some (limits.comparison render value)

end Limits

-- The comparison that counts. Between comparisons with one state the operator's does.
def Handling.choose (handling : Handling) (operator device : Option Comparison) :
    Option Comparison :=
  match handling with
  | usr => operator
  | dev => device
  | usrdefault => operator <|> device
  | devdefault => device <|> operator
  | best => joined State.best
  | worst => joined State.worst
where
  joined (join : State → State → State) : Option Comparison :=
    match operator, device with
    | some o, some d => some (if join o.state d.state = o.state then o else d)
    | o, d => o <|> d

end SensorWatch
