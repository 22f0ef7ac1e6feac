import RentalStatus.Store.Basic
import RentalStatus.Time.Rfc3339

namespace RentalStatus

/-- A status event with a known status. -/
structure Event where
  id : Int
  orderId : Int
  status : OrderStatus
  comment : Option String
  createdAt : Instant
  changedBy : Option Int
  deriving DecidableEq, Repr

/-- The current status of an order with the owner and version of the order. -/
structure CurrentStatus where
  event : Event
  ownerId : Int
  statusVersion : Int32
  deriving DecidableEq, Repr

structure AppendRequest where
  orderId : Int
  expectedVersion : Int32
  status : OrderStatus
  comment : Option String
  createdAt : Instant
  changedBy : Option Int
  deriving DecidableEq, Repr

namespace EventRow

/-- `a` comes before `b` in a history: its stored creation time sorts first as text, or both
were created at the same time and `a` has the smaller id. The stored texts sort in time order
except outside the years 0 to 9999, where a signed year sorts before every other. -/
def precedes (a b : EventRow) : Bool :=
  let ta := a.createdAt.storedText
  let tb := b.createdAt.storedText
  decide (ta < tb) || (ta == tb && a.id < b.id)

def read (r : EventRow) : Except DbError Event :=
  if !Store.fitsId r.id then .error (.idTooLarge "id") else
  match OrderStatus.ofName? r.status with
  | some st => .ok ⟨r.id, r.orderId, st, r.comment, r.createdAt, r.changedBy⟩
  | none => .error (.custom ("Invalid order status '" ++ r.status ++ "' stored for event " ++
      toString r.id))

end EventRow

/-- The last event of a list in history order. -/
def latest (rs : List EventRow) : Option EventRow :=
  rs.foldl (fun best r =>
    match best with
    | none => some r
    | some b => if b.precedes r then some r else some b) none

/-- Events in history order. -/
def historyOrder (rs : List EventRow) : List EventRow :=
  rs.mergeSort fun a b => !b.precedes a

def readAll (rs : List EventRow) : Except DbError (List Event) :=
  if rs.all (Store.fitsId ·.id) then rs.mapM EventRow.read else .error (.idTooLarge "id")

def Op.ofExcept (x : Except DbError α) : Op α := fun s =>
  match x with
  | .ok a => .ok a s
  | .error e => .error e s

namespace Store

def eventsOf (s : Store) (orderId : Int) : List EventRow := s.events.filter (·.orderId == orderId)

def currentRow (s : Store) (orderId : Int) : Option EventRow := latest (s.eventsOf orderId)

def order? (s : Store) (orderId : Int) : Option OrderRow := s.orders.find? (·.id == orderId)

/-- The current status of an order with its owner and version; none when it has no events.
The event's row is fetched with its order, its columns named with the prefix `A_`, so an id
beyond 32 bits fails first, then a missing order, then a status that names none. -/
def currentStatus (orderId : Int) : Op (Option CurrentStatus) := fun s =>
  match s.currentRow orderId with
  | none => .ok none s
  | some r =>
    if !fitsId r.id then .error (.idTooLarge "A_id") s else
    match s.order? orderId with
    | none => .error (.recordNotFound ("Order " ++ toString orderId ++ " of status event " ++
        toString r.id)) s
    | some o =>
      match r.read with
      | .ok ev => .ok (some ⟨ev, o.userId, o.statusVersion⟩) s
      | .error e => .error e s

/-- The history of an order, oldest first. -/
def history (orderId : Int) : Op (List Event) := fun s =>
  match readAll (historyOrder (s.eventsOf orderId)) with
  | .ok evs => .ok evs s
  | .error e => .error e s

def isCurrent (s : Store) (r : EventRow) : Bool :=
  !(s.events.any fun x => x.orderId == r.orderId && r.precedes x)

def orderIdsWithStatus (s : Store) (status : String) : List Int :=
  ((s.events.filter fun r => r.status == status && s.isCurrent r).map (·.orderId)).mergeSort
    fun a b => decide (a ≤ b)

def orderIdsInStatus (status : OrderStatus) : Op (List Int) := fun s =>
  .ok (s.orderIdsWithStatus status.name) s

/-- Moves an order's version from `expected` to the next value; false when the order does not
exist or has another version. -/
def bumpVersion (orderId : Int) (expected : Int32) : Op Bool := fun s =>
  if s.orders.any (fun o => o.id == orderId && o.statusVersion == expected) then
    .ok true { s with orders := s.orders.map fun o =>
      if o.id == orderId then { o with statusVersion := expected + 1 } else o }
  else .ok false s

/-- Appends an event if the order still has the expected version: the version moves on, then
the event is inserted with the next id. None, and nothing written, when the version moved. -/
def append (p : AppendRequest) : Op (Option Event) := do
  if !(← bumpVersion p.orderId p.expectedVersion) then return none
  let row ← insertEvent none p.orderId p.status.name p.comment p.createdAt p.changedBy
  some <$> Op.ofExcept row.read

def orderStatusNames : List String := sortNames (OrderStatus.all.map (·.name))

def equipmentStatusNames : List String := sortNames (EquipmentStatus.all.map (·.name))

end Store

end RentalStatus
