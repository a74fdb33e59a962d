import SensorWatch.Wire.Verdict

namespace SensorWatch

structure Response where
  status : Nat
  body : Option Json

inductive Failure where
  | noSuchPath
  | wrongMethod
  | wrongMediaType
  | bodyTooLarge
  | body (fault : Json.Fault)
  | blankHost
  | database
  deriving DecidableEq

namespace Failure

def status : Failure → Nat
  | noSuchPath => 404
  | wrongMethod => 405
  | wrongMediaType => 415
  | bodyTooLarge => 413
  | body .malformed => 400
  | body .mismatch => 422
  | blankHost => 400
  | database => 500

def words? : Failure → Option (String × String)
  | blankHost => some ("host must not be empty", "BAD_REQUEST")
  | database => some ("A database error occurred", "DATABASE_ERROR")
  | _ => none

def response (failure : Failure) : Response where
  status := failure.status
  body := failure.words?.map fun (words, code) =>
    .object [(.text "error", .text words), (.text "code", .text code)]

end Failure

namespace Response

def healthy : Response where
  status := 200
  body := some (.object [(.text "status", .text "ok")])

def ofVerdicts (verdicts : List (String × Verdict)) : Response where
  status := 200
  body := some (.array (verdicts.map fun (item, verdict) => verdict.toItemJson item))

end Response

abbrev PollResult : Type :=
  Except Failure (List (String × Verdict))

def Response.ofResult : PollResult → Response
  | .ok verdicts => .ofVerdicts verdicts
  | .error failure => failure.response
end SensorWatch
