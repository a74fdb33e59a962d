import SensorWatch.Proofs.State
import SensorWatch.Service.Basic

namespace SensorWatch

namespace Response

-- The response has one object for each result, in the order of the results.
structure Lists (response : Response) (results : List (String × Verdict)) : Prop where
  status_eq : response.status = 200
  body_eq : response.body = some (.array (results.map fun (item, verdict) => .object [
    (.text "item", .text item),
    (.text "state", .text verdict.state.name),
    (.text "summary", .text verdict.summary),
    (.text "metrics", .array (verdict.metrics.map (·.toJson)))]))

theorem lists_ofVerdicts (results : List (String × Verdict)) : (ofVerdicts results).Lists results :=
  ⟨rfl, rfl⟩

-- A number that is not finite is null in a metric. All else can be told from a response.
theorem Lists.map_eq_map {response : Response} {results results' : List (String × Verdict)}
    (h : response.Lists results) (h' : response.Lists results') :
    results.map (fun (item, verdict) => (item, verdict.state, verdict.summary))
      = results'.map fun (item, verdict) => (item, verdict.state, verdict.summary) := by
  have hb := Json.array.inj (Option.some.inj (h.body_eq.symm.trans h'.body_eq))
  clear h h'
  induction results generalizing results'
  case nil =>
    cases results'
    case nil  => rfl
    case cons => simp at hb
  case cons result results ih =>
    cases results'
    case nil => simp at hb
    case cons result' results' =>
      have ⟨hr, hrs⟩ := List.cons.inj hb
      simp only [Json.object.injEq, List.cons.injEq, Prod.mk.injEq, Json.text.injEq, true_and,
        State.name_inj] at hr
      simp [hr, ih hrs]

end Response

-- The request asks for the poll: it is posted to the path, as JSON that is not too large, and the
-- poll stands in its body.
structure Request.Asks {α : Type} (request : Request) (path : String) (decoder : Json.Decoder α)
    (poll : α) : Prop where
  path_eq : request.path = path
  method_eq : request.method = "POST"
  isJson : request.contentType.any MediaType.isJson
  size_le : request.body.utf8ByteSize ≤ Service.bodyLimit
  body_eq : decoder.ofText request.body = .ok poll

namespace Service

theorem readPoll_eq_ok_iff {α : Type} {decoder : Json.Decoder α} {request : Request} {poll : α} :
    readPoll decoder request = .ok poll ↔
      request.contentType.any MediaType.isJson ∧ request.body.utf8ByteSize ≤ bodyLimit
        ∧ decoder.ofText request.body = .ok poll := by
  rw [readPoll]
  by_cases hj : request.contentType.any MediaType.isJson
  case neg => simp [hj]
  case pos =>
    by_cases hs : bodyLimit < request.body.utf8ByteSize
    case pos => simp [hj, hs, Nat.not_le_of_lt hs]
    case neg => cases decoder.ofText request.body <;> simp [hj, hs, Nat.le_of_not_lt hs]

variable {now : Instant} {refusal : Option Refusal} {table : SampleTable}
  {default : OpticalDiscovery} {request : Request}

-- A request that asks for a poll is answered as the poll is, and does to the database what it does.
theorem respond_of_asks_temperatures {poll : TemperaturePoll}
    (h : request.Asks "/checks/temperature" TemperaturePoll.ofJson poll) :
    respond now refusal table default request
      = (pollTemperatures now refusal table poll).answered := by
  have hp := readPoll_eq_ok_iff.mpr ⟨h.isJson, h.size_le, h.body_eq⟩
  simp [respond, h.path_eq, h.method_eq, Route.ofPath?, Route.allows, hp]

theorem respond_of_asks_powers {poll : OpticalPoll}
    (h : request.Asks "/checks/dom" OpticalPoll.ofJson poll) :
    respond now refusal table default request
      = { response := .ofResult (pollPowers default poll), table } := by
  have hp := readPoll_eq_ok_iff.mpr ⟨h.isJson, h.size_le, h.body_eq⟩
  simp [respond, h.path_eq, h.method_eq, Route.ofPath?, Route.allows, hp]

end Service
end SensorWatch
