import RentalStatus.Console.Scenario
import RentalStatus.Console.Service
import RentalStatus.Json.Read
import RentalStatus.Web.Document

namespace RentalStatus

namespace Console

open Decode

/-- Carries out one request. -/
def run (j : Json) : Decode Json := do
  let op ← str j "op"
  if op = "rule" then ruleOf j
  else if op = "authorize" then authorizeOf j
  else if op = "parse" then parseOf j
  else if op = "require_equipment_status" then requireOf j
  else if op = "compute_equipment_updates" then updatesOf j
  else if op = "scenario" then scenarioWith (step Document.api) j
  else if op = "config" then configOf j "vars"
  else if op = "config_env" then configOf j "env"
  else if op = "main" then mainOf j
  else if op = "start_scheduler" then schedulerOf j
  else if op = "migrate" then migrateOf j
  else bad ("unknown op '" ++ op ++ "'")

def answer (line : String) : Json :=
  let outcome : Decode Json := match JsonRead.parse line with
    | .ok j => run j
    | .error _ => bad "invalid JSON"
  match outcome with
  | .ok v => Json.object [("result", v)]
  | .error r => r.toJson

def answerLine (line : String) : String := (answer line).render

end Console

end RentalStatus
