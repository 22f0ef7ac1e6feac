import RentalStatus.Engine
import RentalStatus.Web.Exchange
import RentalStatus.Web.StatusChange
import RentalStatus.Json.Encode

namespace RentalStatus

/-- A request handler: a response and the tables after it. -/
abbrev Handler := Store → Response × Store

namespace Response

def ofEngine : EngineError → Response
  | .status e =>
    match e with
    | .emptyStatus | .unknownStatus _ => error 400 e.message
    | .orderNotFound _ => error 404 e.message
    | .transitionDenied .. | .accessDenied .. => forbidden
    | .equipmentNotReady .. => error 500 e.message
    | .versionConflict _ => error 409 e.message
  | .db _ => internal

end Response

namespace Api

def sessionId : Json → Option Int
  | .num n =>
    match n.toInt? with
    | some v => if -2147483648 ≤ v ∧ v ≤ 2147483647 then some v else none
    | none => none
  | _ => none

/-- The principal a request acts for, or the response refusing it. -/
def signedIn (s : Store) (user : Option Json) (staffOnly : Bool) : Except Response Principal := do
  let some v := user | .error Response.notLoggedIn
  let some uid := sessionId v | .error Response.internal
  let some row := s.users.find? (·.id == uid) | .error Response.notLoggedIn
  let some r := Role.ofName? row.role | .error Response.internal
  if staffOnly && !r.isStaff then .error Response.forbidden
  return ⟨uid, r⟩

/-- Runs a service operation for a signed-in user, answering 200 with its value. -/
def serve (user : Option Json) (staffOnly : Bool) (op : Principal → EngineOp Json) : Handler :=
  fun s =>
    match signedIn s user staffOnly with
    | .error r => (r, s)
    | .ok p =>
      match op p s with
      | .ok v s' => (Response.json 200 v, s')
      | .error e s' => (Response.ofEngine e, s')

def addOrderStatus (policy : Policy) (now : Instant) (user : Option Json) (orderId : Int)
    (change : StatusChange) : Handler :=
  serve user false fun p => do
    let ev ← addStatus policy now ⟨orderId, change.statusName, change.comment, p⟩
    return ev.toJson

def orderStatusHistory (user : Option Json) (orderId : Int) : Handler :=
  serve user false fun p => do
    return .ofList Event.toJson (← history orderId p)

def currentOrderStatus (user : Option Json) (orderId : Int) : Handler :=
  serve user false fun p => do
    return (← currentStatus orderId p).toJson

def orderStatusNames : Handler := fun s =>
  (Response.json 200 (Json.object [("names", .ofList .str Store.orderStatusNames)]), s)

def equipmentStatusNames : Handler := fun s =>
  (Response.json 200 (Json.object [("names", .ofList .str Store.equipmentStatusNames)]), s)

def ordersInStatus (user : Option Json) (name : String) : Handler :=
  serve user true fun _ => do
    let ids ← RentalStatus.ordersInStatus name
    return Json.object [("status_name", .str name), ("order_ids", .ofList .ofInt ids)]

end Api

end RentalStatus
