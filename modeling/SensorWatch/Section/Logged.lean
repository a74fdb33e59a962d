import SensorWatch.RowFault

namespace SensorWatch

inductive Warning where
  | skippedRow (row : List String) (fault : RowFault)
  | skippedThreshold (sensorId : String) (fault : RowFault)
  | entitySensor (sensorId item : String) (fault : RowFault)
  | monitorSensor (sensorId item : String) (fault : RowFault)
  deriving DecidableEq

def Warning.message : Warning → String
  | skippedRow row fault => "Skipping row " ++ Text.quotedRow row ++ ": " ++ fault.message
  | skippedThreshold sensorId fault =>
    "Skipping threshold of sensor " ++ sensorId ++ ": " ++ fault.message
  | entitySensor sensorId item fault =>
    "Sensor " ++ sensorId ++ " (" ++ item ++ "): " ++ fault.message
  | monitorSensor sensorId item fault =>
    "Legacy sensor " ++ sensorId ++ " (" ++ item ++ "): " ++ fault.message

structure Logged (α : Type) where
  value : α
  log : List Warning := []

namespace Logged

instance : Monad Logged where
  pure a := { value := a }
  bind x f :=
    let y := f x.value
    { value := y.value, log := x.log ++ y.log }

def warn (warning : Warning) : Logged Unit where
  value := ()
  log := [warning]

-- Reads one element after the other. What can not be read is logged and left out.
def collect {α β : Type} (read : α → Except RowFault β) (warning : α → RowFault → Warning) :
    List α → Logged (List β)
  | [] => pure []
  | a :: as =>
    match read a with
    | .ok b => do
      return b :: (← collect read warning as)
    | .error fault => do
      warn (warning a fault)
      collect read warning as

variable {α β : Type} (a : α) (x : Logged α) (f : α → Logged β)

@[simp]
theorem value_pure : (pure a : Logged α).value = a :=
  rfl

@[simp]
theorem log_pure : (pure a : Logged α).log = [] :=
  rfl

@[simp]
theorem value_bind : (x >>= f).value = (f x.value).value :=
  rfl

@[simp]
theorem log_bind : (x >>= f).log = x.log ++ (f x.value).log :=
  rfl

@[simp]
theorem log_warn (warning : Warning) : (warn warning).log = [warning] :=
  rfl

end Logged
end SensorWatch
