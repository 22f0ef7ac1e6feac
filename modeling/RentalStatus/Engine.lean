import RentalStatus.Store.Records
import RentalStatus.Guard
import RentalStatus.Text.Blank
import RentalStatus.Time.Rfc3339

namespace RentalStatus

/-- Engine operations: a result, or a refusal or storage error, with the store after it. -/
abbrev EngineOp := EStateM EngineError Store

namespace EngineOp

/-- A store operation inside the engine. -/
def db (op : Op α) : EngineOp α := fun s =>
  match op s with
  | .ok a s' => .ok a s'
  | .error e s' => .error (.db e) s'

/-- Refuses the request. -/
def refuse (e : OrderStatusError) : EngineOp α := fun s => .error (.status e) s

/-- Runs `op` as a transaction: on failure the store is the one before it. -/
def atomically (op : EngineOp α) : EngineOp α := fun s =>
  match op s with
  | .ok a s' => .ok a s'
  | .error e _ => .error e s

end EngineOp

open EngineOp

/-- A request to change the status of an order, the status given as text. -/
structure StatusRequest where
  orderId : Int
  status : String
  comment : Option String
  principal : Principal
  deriving DecidableEq, Repr

def parseTarget (s : String) : Except OrderStatusError OrderStatus :=
  if Text.blank s then .error .emptyStatus
  else
    match OrderStatus.ofName? s with
    | some t => .ok t
    | none => .error (.unknownStatus s)

/-- Fails with the refusal of a read, or gives its value. -/
def requireOk (x : Except OrderStatusError α) : EngineOp α :=
  match x with
  | .ok a => pure a
  | .error e => refuse e

/-- Changes the status of an order at time `now` under `policy`, returning the new event. -/
def addStatus (policy : Policy) (now : Instant) (req : StatusRequest) : EngineOp Event :=
  atomically do
    let target ← requireOk (parseTarget req.status)
    let some cur ← db (Store.currentStatus req.orderId) | refuse (.orderNotFound req.orderId)
    let source := cur.event.status
    if !authorize policy req.principal cur.ownerId (rule source target) then
      refuse (.transitionDenied req.principal.id req.orderId source target)
    let records ← db (Store.recordsOf req.orderId)
    match Equipment.notReady target records with
    | [] => pure ()
    | ids => refuse (.equipmentNotReady .booked ids)
    let some ev ← db (Store.append {
        orderId := req.orderId, expectedVersion := cur.statusVersion, status := target,
        comment := req.comment, createdAt := now, changedBy := some req.principal.id })
      | refuse (.versionConflict req.orderId)
    for u in Equipment.updates target source req.principal.role records do
      discard <| db (Store.updateRecord u)
    pure ev

/-- The current status of an order, if `p` may read it: staff and the owner may, and so may a
user who changed the order's status before. -/
def visibleStatus (orderId : Int) (p : Principal) : EngineOp CurrentStatus := do
  let some cur ← db (Store.currentStatus orderId) | refuse (.orderNotFound orderId)
  if p.role.isStaff || p.id == cur.ownerId then return cur
  let evs ← db (Store.history orderId)
  if evs.any (·.changedBy == some p.id) then return cur
  refuse (.accessDenied p.id orderId)

/-- The history of an order, oldest first, for a principal who may read it. -/
def history (orderId : Int) (p : Principal) : EngineOp (List Event) := do
  discard <| visibleStatus orderId p
  db (Store.history orderId)

/-- The current event of an order, for a principal who may read it. -/
def currentStatus (orderId : Int) (p : Principal) : EngineOp Event := do
  return (← visibleStatus orderId p).event

def ordersInStatus (status : String) : EngineOp (List Int) := do
  let target ← requireOk (parseTarget status)
  db (Store.orderIdsInStatus target)

def overdueComment (ended : Instant) : String :=
  "Rental period ended on " ++ ended.date.toIso ++ " without the equipment being returned"

/-- The earliest of some instants. -/
def earliest : List Instant → Option Instant
  | [] => none
  | t :: ts => some (ts.foldl Instant.min t)

/-- Marks a running rental overdue at `now` when one of its records ended before `now`. None
when the order has no events, is not running, or no record has ended. -/
def markOverdue (now : Instant) (orderId : Int) : EngineOp (Option Event) :=
  atomically do
    let some cur ← db (Store.currentStatus orderId) | return none
    if cur.event.status != .inProgress then return none
    let records ← db (Store.recordsOf orderId)
    let some ended := earliest ((records.map (·.endDate)).filter (· < now)) | return none
    let some ev ← db (Store.append {
        orderId, expectedVersion := cur.statusVersion, status := .overdue,
        comment := some (overdueComment ended), createdAt := now, changedBy := none })
      | refuse (.versionConflict orderId)
    return some ev

/-- Marks the rentals in `ids` overdue, in order, counting those marked; a failure on one order
leaves it as it was and goes on with the next. -/
def markEach (now : Instant) : List Int → Nat → EngineOp Nat
  | [], n => pure n
  | o :: os, n => fun s =>
    match markOverdue now o s with
    | .ok (some _) s' => markEach now os (n + 1) s'
    | .ok none s' => markEach now os n s'
    | .error _ s' => markEach now os n s'

/-- Marks every running rental overdue whose booking ended before `now`; the number marked. -/
def sweepOverdue (now : Instant) : EngineOp Nat := do
  let ids ← db (Store.orderIdsInStatus .inProgress)
  markEach now ids 0

end RentalStatus
