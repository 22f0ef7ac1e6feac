import RentalStatus.Console.Encode
import RentalStatus.Launch
import RentalStatus.Store.Migration

namespace RentalStatus

def Config.toJson (c : Config) : Json :=
  Json.object [("database_url", .str c.databaseUrl), ("bind_address", .str c.bindAddress.render),
    ("transition_policy", .str c.policy.label),
    ("overdue_sweep_schedule", .ofText? c.sweepSchedule),
    ("request_timeout_secs", .ofInt c.requestTimeoutSecs)]

def MigrationState.toJson (s : MigrationState) : Json :=
  Json.object [("tables", .ofList .str s.tables),
    ("applied", .ofList (fun (m : Migration) => .str m.name) s.appliedMigrations),
    ("name_rows", Json.object (s.rows.map fun (t, n) => (t, .ofInt n)))]

namespace Console

open Decode

def namedEntries (j : Json) (k : String) (entry : String → Json → Decode (String × String)) :
    Decode (List (String × String)) := do
  match ← field j k with
  | .obj fs => fs.mapM fun (name, v) => entry name v
  | _ => bad ("field '" ++ k ++ "' must be an object")

def namedTexts (j : Json) (k : String) : Decode (List (String × String)) :=
  namedEntries j k fun name v => match v with
    | .str s => pure (name, s)
    | _ => bad "config values must be strings"

def envEntryValid (e : String × String) : Bool :=
  !e.1.isEmpty && !e.1.toList.contains '=' && !e.1.toList.contains (Char.ofNat 0) &&
    !e.2.toList.contains (Char.ofNat 0)

def envEntries (j : Json) (k : String) : Decode (List (String × String)) :=
  namedEntries j k fun name v => match v with
    | .str s => if envEntryValid (name, s) then pure (name, s) else bad "invalid env entry"
    | _ => bad "env values must be strings"

def lookupIn (vars : List (String × String)) (name : String) : Option String :=
  (vars.reverse.find? (·.1 == name)).map (·.2)

def configOf (j : Json) (k : String) : Decode Json := do
  let vars ← if k = "env" then envEntries j k else namedTexts j k
  match Config.ofLookup (lookupIn vars) with
  | .ok c => return Config.toJson c
  | .error e => .error ⟨"ConfigErr." ++ e.cause, e.message⟩

/-- Starts the service with the variables of a request: how it ended. -/
def mainOf (j : Json) : Decode Json := do
  let vars ← envEntries j "env"
  return match launch (lookupIn vars) with
    | .ok _ => Json.object [("exit_code", .null), ("timed_out", .bool true), ("stderr", .str "")]
    | .error e => Json.object [("exit_code", .ofInt 1), ("timed_out", .bool false),
        ("stderr", .str e.report)]

def schedulerOf (j : Json) : Decode Json := do
  discard <| opt j "now" asInstant
  let s ← str j "schedule"
  match Schedule.parse? s with
  | some _ => return .str "started"
  | none => .error ⟨"SchedulerErr", "ParseSchedule"⟩

def migrationCommand (j : Json) : Decode MigrationCommand := do
  let n ← nullable j "n" asCount
  let op ← str j "op"
  if op = "up" then pure (.up n)
  else if op = "down" then pure (.down n)
  else if op = "fresh" then pure .fresh
  else if op = "refresh" then pure .refresh
  else if op = "reset" then pure .reset
  else bad ("unknown migrate op '" ++ op ++ "'")

def migrateOf (j : Json) : Decode Json := do
  let cmds ← ((← opt j "steps" asListOrNull).getD []).mapM migrationCommand
  let states := (cmds.foldl (fun (acc : List MigrationState × MigrationState) c =>
    let s := acc.2.run c
    (s :: acc.1, s)) ([], {})).1.reverse
  return Json.object [("steps", .ofList (fun (s : MigrationState) =>
    Json.object [("result", .null), ("state", s.toJson)]) states)]

end Console

end RentalStatus
