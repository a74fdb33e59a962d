import SensorWatch.Service.Poll
import SensorWatch.Service.Request
import SensorWatch.Service.Response
import SensorWatch.Service.Transaction

namespace SensorWatch

structure Outcome where
  response : Response
  statements : List Statement := []
  table : SampleTable

structure PollOutcome where
  result : PollResult
  statements : List Statement := []
  table : SampleTable

namespace PollOutcome

def response (outcome : PollOutcome) : Response :=
  .ofResult outcome.result

def answered (outcome : PollOutcome) : Outcome where
  response := outcome.response
  statements := outcome.statements
  table := outcome.table

end PollOutcome

namespace Service

def checkHost (host : String) : Except Failure Unit :=
  if (Text.strip host).isEmpty then .error .blankHost else .ok ()

variable (now : Instant) (refusal : Option Refusal) (table : SampleTable)

-- Carries out a temperature poll with samples from the table. What the poll sets is stored, unless
-- the database refuses a statement: then nothing is.
def pollWithTable (poll : TemperaturePoll) : PollOutcome :=
  let (verdicts, store) := poll.run now (table.load poll.host)
  let rows := store.takeUpdates.1.map fun (key, sample) => ⟨poll.host, key, sample⟩
  let (statements, passed) := send refusal (Transaction.poll poll.host rows)
  if passed then
    { result := .ok verdicts, statements, table := table.putAll rows }
  else
    { result := .error .database, statements, table }

def pollTemperatures (poll : TemperaturePoll) : PollOutcome :=
  match checkHost poll.host with
  | .error failure => { result := .error failure, table }
  | .ok () =>
    if poll.params.trend.isSome then pollWithTable now refusal table poll
    else { result := .ok (poll.run now {}).1, table }

def pollPowers (default : OpticalDiscovery) (poll : OpticalPoll) : PollResult := do
  checkHost poll.host
  return poll.run default

def bodyLimit : Nat :=
  0x200000

-- The poll in the body of a request. A body is looked at after its media type and its size.
def readPoll {α : Type} (decoder : Json.Decoder α) (request : Request) : Except Failure α :=
  if !request.contentType.any MediaType.isJson then .error .wrongMediaType
  else if bodyLimit < request.body.utf8ByteSize then .error .bodyTooLarge
  else match decoder.ofText request.body with
    | .ok poll => .ok poll
    | .error fault => .error (.body fault)

inductive Route where
  | health
  | temperatures
  | powers
  deriving DecidableEq

namespace Route

def ofPath? : String → Option Route
  | "/health" => some health
  | "/checks/temperature" => some temperatures
  | "/checks/dom" => some powers
  | _ => none

def allows : Route → String → Bool
  | health, method => method = "GET" || method = "HEAD"
  | _, method => method = "POST"

end Route

def respond (default : OpticalDiscovery) (request : Request) : Outcome :=
  let fail (failure : Failure) : Outcome := { response := failure.response, table }
  match Route.ofPath? request.path with
  | none => fail .noSuchPath
  | some route =>
    if !route.allows request.method then fail .wrongMethod
    else match route with
      | .health =>
        let response := Response.healthy
        { response := if request.method = "HEAD" then { response with body := none } else response
          table }
      | .temperatures =>
        match readPoll TemperaturePoll.ofJson request with
        | .error failure => fail failure
        | .ok poll => (pollTemperatures now refusal table poll).answered
      | .powers =>
        match readPoll OpticalPoll.ofJson request with
        | .error failure => fail failure
        | .ok poll => { response := .ofResult (pollPowers default poll), table }

def createSchema : List Statement × Bool :=
  send refusal Transaction.schema

end Service
end SensorWatch
