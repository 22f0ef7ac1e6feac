import RentalStatus.Console.Seed
import RentalStatus.Store.Relations
import RentalStatus.Web.Router
import RentalStatus.Web.RequestParts
import RentalStatus.Json.Read

namespace RentalStatus

namespace Console

open Decode

/-- The state of a run: the tables, the clock, the transition policy and the open sessions. -/
structure Scene where
  store : Store
  now : Instant
  policy : Policy
  sessions : Sessions := {}

/-- What a step gives: a value or a refusal. -/
abbrev Outcome := Except Refusal Json

/-- A step, read and ready to run. -/
abbrev Step := Scene → Outcome × Scene

def Scene.serve (sc : Scene) (op : EngineOp Json) : Outcome × Scene :=
  match op sc.store with
  | .ok v s => (.ok v, { sc with store := s })
  | .error e s => (.error (Refusal.ofEngine e), { sc with store := s })

def Scene.query (sc : Scene) (op : Op Json) : Outcome × Scene :=
  match op sc.store with
  | .ok v s => (.ok v, { sc with store := s })
  | .error e s => (.error (Refusal.ofDb e), { sc with store := s })

def eventList (evs : List Event) : Json := .ofList Event.toJson evs

def idList (ids : List Int) : Json := .ofList .ofInt ids

def setNowStep (j : Json) : Decode Step := do
  let t ← asInstant "now" (← field j "now")
  return fun sc => (.ok .null, { sc with now := t })

def addStatusStep (j : Json) : Decode Step := do
  let oid ← id j "order_id"
  let status ← str j "status"
  let comment ← text? j "comment"
  let p ← principal j
  return fun sc => sc.serve do
    let ev ← addStatus sc.policy sc.now ⟨oid, status, comment, p⟩
    return ev.toJson

def historyStep (j : Json) : Decode Step := do
  let oid ← id j "order_id"
  let p ← principal j
  return fun sc => sc.serve do return eventList (← history oid p)

def currentStep (j : Json) : Decode Step := do
  let oid ← id j "order_id"
  let p ← principal j
  return fun sc => sc.serve do return (← currentStatus oid p).toJson

def ordersInStatusStep (j : Json) : Decode Step := do
  let status ← str j "status"
  return fun sc => sc.serve do return idList (← ordersInStatus status)

def markOverdueStep (j : Json) : Decode Step := do
  let oid ← id j "order_id"
  return fun sc => sc.serve do return .ofOption Event.toJson (← markOverdue sc.now oid)

def sweepStep : Step := fun sc => sc.serve do return .ofInt (← sweepOverdue sc.now)

def namesStep (names : List String) : Step := fun sc => (.ok (.ofList .str names), sc)

inductive Handle where
  /-- The connection: each write stands on its own. -/
  | conn
  /-- A transaction, committed when the call succeeds unless told otherwise. -/
  | tx
  deriving DecidableEq

def Handle.offers : Handle → String → Bool
  | .conn, c => ["current_status", "append_status", "history", "order_ids_in_status",
      "order_status_names", "equipment_status_names"].contains c
  | .tx, c => ["current_status", "append_status", "history", "order_ids_in_status", "by_order",
      "update"].contains c

def Handle.ofName? : String → Option Handle
  | "conn" => some .conn
  | "tx" => some .tx
  | _ => none

def storeCall (j : Json) (now : Instant) (call : String) : Decode (Op Json) := do
  if call = "current_status" then
    let oid ← id j "order_id"
    return do return .ofOption CurrentStatus.toJson (← Store.currentStatus oid)
  else if call = "append_status" then
    let oid ← id j "order_id"
    let expected ← id j "expected_version"
    let status ← orderStatus j "status"
    let comment ← text? j "comment"
    let created ← instantOr j "created_at" now
    let by_ ← nullable j "changed_by" asId
    return do
      let ev ← Store.append ⟨oid, Int32.ofInt expected, status, comment, created, by_⟩
      return .ofOption Event.toJson ev
  else if call = "history" then
    let oid ← id j "order_id"
    return do return eventList (← Store.history oid)
  else if call = "order_ids_in_status" then
    let status ← orderStatus j "status"
    return do return idList (← Store.orderIdsInStatus status)
  else if call = "by_order" then
    let oid ← id j "order_id"
    return do return .ofList EquipmentRecord.toJson (← Store.recordsOf oid)
  else if call = "update" then
    let rid ← id j "id"
    let status ← (← text? j "status").mapM equipmentStatusNamed
    let start ← opt j "start_date" asInstant
    let stop ← opt j "end_date" asInstant
    return do
      discard <| Store.updateRecord ⟨rid, status, start, stop⟩
      return .null
  else if call = "order_status_names" then
    return pure (.ofList .str Store.orderStatusNames)
  else return pure (.ofList .str Store.equipmentStatusNames)

def storeStep (j : Json) : Decode Step := do
  let on := textOr j "on" "conn"
  let call ← str j "call"
  let commit := flagOr j "commit" true
  let some handle := Handle.ofName? on | bad ("unknown store target '" ++ on ++ "'")
  if !handle.offers call then bad ("unknown store call '" ++ call ++ "' on " ++ on)
  return fun sc =>
    match storeCall j sc.now call with
    | .error r => (.error r, sc)
    | .ok op =>
      match handle with
      | .conn => sc.query op
      | .tx =>
        match op sc.store with
        | .ok v s => (.ok v, if commit then { sc with store := s } else sc)
        | .error e _ => (.error (Refusal.ofDb e), sc)

def relatedStep (j : Json) : Decode Step := do
  let kind ← str j "entity"
  let rid ← id j "id"
  let some entity := Entity.ofName? kind | bad ("unknown entity '" ++ kind ++ "'")
  return fun sc =>
    (.ok (.ofOption (fun fs => Json.object (fs.map fun (k, ids) => (k, idList ids)))
      (sc.store.related entity rid)), sc)

def responseJson (r : Response) : Json :=
  let body : Json := match r.body with
    | .empty => .str ""
    | .json v => v
    | .text t =>
      match JsonRead.parse t with
      | .ok v => v
      | .error _ => .str t
  Json.object [("status", .ofInt r.status), ("body", body)]

def Scene.handle (sc : Scene) (h : Handler) : Outcome × Scene :=
  let (r, s) := h sc.store
  (.ok (responseJson r), { sc with store := s })

def userField (j : Json) (k : String) : Option Json := j.get? k

def httpStep (document : Json) (j : Json) : Decode Step := do
  let method := textOr j "method" "GET"
  let target ← str j "path"
  let body ← match j.get? "body" with
    | none | some .null => pure none
    | some (.str t) => pure (some t)
    | some v => pure (some v.render)
  let contentType := match j.get? "content_type" with
    | some .null => none
    | some (.str t) => some t
    | _ => if body.isSome then some "application/json" else none
  let rawCookie := match j.get? "cookie" with
    | some (.str c) => some c
    | _ => none
  return fun sc =>
    let (sessions, sessionCookie) := match userField j "session" with
      | some v => let (ss, c) := sc.sessions.start v; (ss, some c)
      | none => (sc.sessions, none)
    let sc := { sc with sessions }
    match RequestParts.build method target contentType (sessionCookie.toList ++ rawCookie.toList)
        (body.getD "") with
    | .error e => (.error ⟨"BadInput", "request: " ++ e.message⟩, sc)
    | .ok req => sc.handle (Router.serve sc.policy sc.now document sc.sessions req)

def handlerStep (j : Json) : Decode Step := do
  let name ← str j "name"
  let user := userField j "user"
  let orderId ← opt j "order_id" asId
  let statusName ← text? j "status_name"
  let comment ← text? j "comment"
  let needOrder : Decode Int := match orderId with
    | some o => pure o
    | none => bad "missing field 'order_id'"
  let h : Scene → Handler ←
    if name = "add_order_status" then do
      let oid ← needOrder
      pure fun sc => Api.addOrderStatus sc.policy sc.now user oid ⟨statusName.getD "", comment⟩
    else if name = "get_order_status_history" then do
      let oid ← needOrder
      pure fun _ => Api.orderStatusHistory user oid
    else if name = "get_current_order_status" then do
      let oid ← needOrder
      pure fun _ => Api.currentOrderStatus user oid
    else if name = "get_orders_in_status" then do
      let some statusName := statusName | bad "missing field 'status_name'"
      pure fun _ => Api.ordersInStatus user statusName
    else if name = "get_order_status_names" then pure fun _ => Api.orderStatusNames
    else if name = "get_equipment_status_names" then pure fun _ => Api.equipmentStatusNames
    else bad ("unknown handler '" ++ name ++ "'")
  return fun sc => sc.handle (h sc)

def step (document : Json) (j : Json) : Decode Step := do
  let op ← str j "op"
  if op = "set_now" then setNowStep j
  else if op = "add_status" then addStatusStep j
  else if op = "history" then historyStep j
  else if op = "current_status" then currentStep j
  else if op = "status_names" then pure (namesStep Store.orderStatusNames)
  else if op = "equipment_status_names" then pure (namesStep Store.equipmentStatusNames)
  else if op = "orders_in_status" then ordersInStatusStep j
  else if op = "mark_overdue" then markOverdueStep j
  else if op = "sweep_overdue" then pure sweepStep
  else if op = "store" then storeStep j
  else if op = "related" then relatedStep j
  else if op = "http" then httpStep document j
  else if op = "handler" then handlerStep j
  else bad ("unknown step op '" ++ op ++ "'")

def Outcome.fields : Outcome → List (String × Json)
  | .ok v => [("result", v)]
  | .error r => [("error", .str r.kind), ("message", .str r.message)]

def takeSteps (read : Json → Decode Step) : Scene → List Json → List Json
  | _, [] => []
  | sc, j :: js =>
    let (out, sc') := match read j with
      | .ok st => st sc
      | .error r => (.error r, sc)
    Json.object (out.fields ++ [("state", sc'.store.snapshot)]) :: takeSteps read sc' js

def schema (j : Json) : Decode Schema := do
  let s := textOr j "schema" "migrations"
  if s = "migrations" then pure .migrations
  else if s = "entities" then pure .entities
  else bad ("unknown schema '" ++ s ++ "'")

def defaultNow : Instant := Instant.ofText "2023-02-05T12:00:00Z"

def scenarioWith (read : Json → Decode Step) (j : Json) : Decode Json := do
  let pol ← policy j
  let now ← instantOr j "now" defaultNow
  let sch ← schema j
  let setup : Setup (Option (List Json)) := do
    seedRows j
    match ← Setup.read (opt j "factories" asListOrNull) with
    | none => return none
    | some fs => some <$> fs.mapM factory
  match setup { schema := sch } with
  | .error r _ => .error r
  | .ok seeded s =>
    let steps ← items j "steps"
    let entries := takeSteps read { store := s, now, policy := pol } steps
    return Json.object ([("steps", .arr entries)] ++
      (seeded.map fun xs => [("seeded", .arr xs)]).getD [])

end Console

end RentalStatus
