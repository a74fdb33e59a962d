import SensorWatch.Service.SampleTable

namespace SensorWatch

inductive Verb where
  | begin
  | create
  | select
  | insert
  | commit
  deriving DecidableEq

def Verb.word : Verb → String
  | begin => "BEGIN"
  | create => "CREATE"
  | select => "SELECT"
  | insert => "INSERT"
  | commit => "COMMIT"

inductive Statement where
  | begin
  | create
  | select (host : String)
  | insert (row : SampleRow)
  | commit
  deriving DecidableEq

namespace Statement

def verb : Statement → Verb
  | begin => .begin
  | create => .create
  | select _ => .select
  | insert _ => .insert
  | commit => .commit

def text : Statement → String
  | select host => Verb.select.word ++ " " ++ host
  | insert row => Verb.insert.word ++ " " ++ row.host ++ "/" ++ row.key
  | statement => statement.verb.word

end Statement

-- A database that takes some statements with a verb and refuses the next one.
structure Refusal where
  verb : Verb
  after : Nat := 0
  deriving DecidableEq

-- The statements that go to the database, and whether all of them pass. A refused statement is the
-- last one.
def Refusal.send (refusal : Refusal) : List Statement → List Statement × Bool
  | [] => ([], true)
  | statement :: statements =>
    if statement.verb = refusal.verb then
      match refusal.after with
      | 0 => ([statement], false)
      | after + 1 =>
        let (sent, passed) := send ⟨refusal.verb, after⟩ statements
        (statement :: sent, passed)
    else
      let (sent, passed) := send refusal statements
      (statement :: sent, passed)

def send (refusal : Option Refusal) (statements : List Statement) : List Statement × Bool :=
  match refusal with
  | none => (statements, true)
  | some refusal => refusal.send statements

namespace Transaction

def schema : List Statement :=
  [.begin, .create, .commit]

def poll (host : String) (rows : List SampleRow) : List Statement :=
  [.begin, .select host] ++ rows.map .insert ++ [.commit]

end Transaction
end SensorWatch
