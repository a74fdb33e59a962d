import SensorWatch.Proofs.Check.Offered
import SensorWatch.Proofs.Service.Memory
import SensorWatch.Proofs.Service.Requests

namespace SensorWatch.Service

-- A poll without a list of items has one result for everything that is worth checking, in the order
-- of the names; with a list it has one for whatever of the list there is, in the order of the list.
-- A request for the poll is answered with these results and with nothing else.
theorem polls_answered (now : Instant) (table : SampleTable) (default : OpticalDiscovery) :
    (∀ poll : TemperaturePoll, checkHost poll.host = .ok () →
        ∃ results, (pollTemperatures now none table poll).result = .ok results
          ∧ poll.resolved.Results .celsius (·.isTemperatureItem)
              (fun sensor verdict => ∃ earlier,
                verdict = sensor.verdictSince poll.params now earlier)
              poll.resolved.temperatureItems poll.items results
          ∧ ∀ request : Request, request.Asks "/checks/temperature" TemperaturePoll.ofJson poll →
              (respond now none table default request).response.Lists results)
      ∧ ∀ poll : OpticalPoll, checkHost poll.host = .ok () →
          let discovery := poll.discovery.getD default
          ∃ results, pollPowers default poll = .ok results
            ∧ poll.resolved.Results .dBm (·.isOpticalItem discovery)
                (fun sensor verdict => verdict = sensor.checkPower poll.params)
                (poll.resolved.opticalItems discovery) poll.items results
            ∧ ∀ request : Request, request.Asks "/checks/dom" OpticalPoll.ofJson poll →
                (respond now none table default request).response.Lists results := by
  refine ⟨fun poll hc => ⟨_, result_pollTemperatures hc now table, ?temperatures,
      fun request h => ?temperaturesAsked⟩,
    fun poll hc => ⟨poll.run default, ?result, ?powers, fun request h => ?powersAsked⟩⟩
  case temperatures =>
    refine (Section.answers_checkTemperatures poll.params now poll.targets _).results
      (Section.offers_ofTables poll.tables _ _) ?_
    rintro item sensor _ _ hw ⟨earlier, rfl⟩
    exact Sensor.verdictBy_ne_obsolete (Sensor.live_of_isTemperatureItem hw)
      fun _ => List.cons_ne_nil _ _
  case temperaturesAsked =>
    rw [respond_of_asks_temperatures h, PollOutcome.answered, PollOutcome.response,
      result_pollTemperatures hc]
    exact Response.lists_ofVerdicts _
  case result =>
    rw [pollPowers, hc]
    rfl
  case powers =>
    refine (Section.answers_checkPowers poll.params (poll.targets default)).results
      (Section.offers_ofTables poll.tables _ _) ?_
    rintro item sensor _ hg _ rfl
    exact Sensor.verdictBy_ne_obsolete (Section.filed_of_get? hg).live_of_dBm
      fun _ => List.cons_ne_nil _ _
  case powersAsked =>
    rw [respond_of_asks_powers h, pollPowers, hc]
    exact Response.lists_ofVerdicts _

def portSwitch : Tables where
  descriptions := [["1008", "Switch 1 - Sensor 0"], ["21", "Te1/1 Receive Power"]]
  sensorStates := [["1008", "8", "9", "0", "45", "1"], ["21", "14", "9", "1", "-34", "1"]]
  envMon := [["1008", "SW#1, Sensor#1, GREEN", "36", "68", "1"]]

def portSwitchRequest (path : String) : Request where
  method := "POST"
  path := path
  contentType := some "application/json"
  body :=
    "\x7b\"host\": \"switch\", \"tables\": \x7b" ++
      "\"descriptions\": [[\"1008\", \"Switch 1 - Sensor 0\"], [\"21\", \"Te1/1 Receive Power\"]], " ++
      "\"sensor_states\": [[\"1008\", \"8\", \"9\", \"0\", \"45\", \"1\"], " ++
        "[\"21\", \"14\", \"9\", \"1\", \"-34\", \"1\"]], " ++
      "\"env_mon\": [[\"1008\", \"SW#1, Sensor#1, GREEN\", \"36\", \"68\", \"1\"]]\x7d\x7d"

theorem portSwitch_answered :
    let poll (items : Option (List String)) : TemperaturePoll :=
      { host := "switch", tables := portSwitch, items }
    let respond (path : String) : Response :=
      (respond ⟨0⟩ none {} {} (portSwitchRequest path)).response
    (∃ results, (respond "/checks/temperature").Lists results
        ∧ results.map (·.1) = ["Switch 1 - Sensor 0"] ∧ ∀ result ∈ results, result.2 ≠ .obsolete)
      ∧ (∃ results, (pollTemperatures ⟨0⟩ none {}
            (poll (some ["SW#1 1008", "Fan", "SW#1 1008"]))).result = .ok results
          ∧ results.map (·.1) = ["SW#1 1008", "SW#1 1008"])
      ∧ ∃ results, (respond "/checks/dom").Lists results
          ∧ results.map (·.1) = ["Te1/1 Receive Power"] := by
  intro poll respond
  have hc : checkHost "switch" = .ok () := by decide +kernel
  have ⟨ht, hp⟩ := polls_answered ⟨0⟩ {} {}
  have ⟨offered, _, hor, ho⟩ := ht (poll none) hc
  have ⟨listed, hl, hlr, _⟩ := ht (poll (some ["SW#1 1008", "Fan", "SW#1 1008"])) hc
  have ⟨powers, _, hpr, hp⟩ := hp { host := "switch", tables := portSwitch } hc
  have ⟨hoi, _, hon⟩ := hor.offered rfl
  have hot : (portSwitchRequest "/checks/temperature").Asks "/checks/temperature"
      TemperaturePoll.ofJson (poll none) :=
    ⟨rfl, rfl, by decide +kernel, by decide +kernel, by decide +kernel⟩
  have hop : (portSwitchRequest "/checks/dom").Asks "/checks/dom" OpticalPoll.ofJson
      { host := "switch", tables := portSwitch } :=
    ⟨rfl, rfl, by decide +kernel, by decide +kernel, by decide +kernel⟩
  refine ⟨⟨offered, ho _ hot, hoi.trans ?offered, hon⟩, ⟨listed, hl, (hlr.listed rfl).trans ?listed⟩,
    powers, hp _ hop, (hpr.offered rfl).1.trans ?powers⟩
  all_goals decide +kernel

end SensorWatch.Service
