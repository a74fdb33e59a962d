import SensorWatch.AdminState
import SensorWatch.Number.IntText
import SensorWatch.Text.Blank
import SensorWatch.Text.Cut

namespace SensorWatch

inductive Variable where
  | databaseUrl
  | poolMax
  | listenPort
  | adminStates
  deriving DecidableEq

def Variable.name : Variable → String
  | databaseUrl => "DATABASE_URL"
  | poolMax => "DB_POOL_MAX"
  | listenPort => "LISTEN_PORT"
  | adminStates => "DOM_ADMIN_STATES"

abbrev Environment : Type :=
  Variable → Option String

inductive SettingsFault where
  | unset (var : Variable)
  | notInteger (var : Variable) (fault : IntFault)
  | noPort (n : Nat)
  | noState (entry : String)
  deriving DecidableEq

def SettingsFault.message : SettingsFault → String
  | unset var => var.name ++ " must be set in .env or environment"
  | notInteger var fault => "Invalid " ++ var.name ++ ": " ++ fault.message
  | noPort n => "Invalid " ++ Variable.listenPort.name ++ ": " ++ toString n
  | noState entry => "Invalid " ++ Variable.adminStates.name ++ " entry: " ++ entry

structure Settings where
  databaseUrl : String
  poolMax : UInt32
  listenPort : UInt16
  -- The states of interfaces whose sensors are offered where a request does not say.
  adminStates : AdminSet
  deriving DecidableEq

namespace Environment

variable (env : Environment)

def natural (var : Variable) (default : Nat) : Except SettingsFault Nat :=
  match env var with
  | none => .ok default
  | some s =>
    match (IntRange.unsigned 32).read s with
    | .ok i => .ok i.toNat
    | .error fault => .error (.notInteger var fault)

def listenPort : Except SettingsFault UInt16 := do
  let n ← env.natural .listenPort 8080
  if n < UInt16.size then return .ofNat n else throw (.noPort n)

end Environment

-- The states that a list between commas names. Entries without a name do not count.
def AdminSet.ofText (s : String) : Except SettingsFault AdminSet :=
  go (((Text.pieces ',' s).map Text.strip).filter fun entry => !entry.isEmpty) {}
where
  go : List String → AdminSet → Except SettingsFault AdminSet
    | [], set => .ok set
    | entry :: entries, set =>
      match AdminState.ofName? entry with
      | some state => go entries (set.insert state)
      | none => .error (.noState entry)

namespace Settings

-- Reads the variables one after the other: the first that is wrong counts.
def load (env : Environment) : Except SettingsFault Settings := do
  let databaseUrl ← match env .databaseUrl with
    | some url => .ok url
    | none => .error (.unset .databaseUrl)
  let poolMax ← env.natural .poolMax 5
  let listenPort ← env.listenPort
  let adminStates ← AdminSet.ofText ((env .adminStates).getD "up")
  return { databaseUrl, poolMax := .ofNat poolMax, listenPort, adminStates }

end Settings

-- An address of a database, with the password covered. The password stands between the last colon
-- in front of the last at sign, and that sign.
def masked (url : String) : String :=
  match Text.aroundLast? '@' url with
  | none => url
  | some (credentials, host) =>
    match Text.aroundLast? ':' credentials with
    | none => url
    | some (user, _) => user ++ ":****@" ++ host

def AdminSet.logText (set : AdminSet) : String :=
  "\x7b" ++ ", ".intercalate (set.toList.map word) ++ "\x7d"
where
  word : AdminState → String
    | .up => "Up"
    | .down => "Down"
    | .testing => "Testing"

def Settings.log (settings : Settings) : List String :=
  ["Configuration loaded:",
   "  DATABASE_URL     : " ++ masked settings.databaseUrl,
   "  DB_POOL_MAX      : " ++ toString settings.poolMax.toNat,
   "  LISTEN_PORT      : " ++ toString settings.listenPort.toNat,
   "  DOM_ADMIN_STATES : " ++ settings.adminStates.logText]

end SensorWatch
