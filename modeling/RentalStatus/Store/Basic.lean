import RentalStatus.Error
import RentalStatus.Time.Instant

namespace RentalStatus

inductive Schema where
  /-- The production schema: status names of events and records must be known names too. -/
  | migrations
  /-- Tables built from the row types alone: any status text can be stored. -/
  | entities
  deriving DecidableEq, Repr, Inhabited

structure UserRow where
  id : Int
  login : String
  role : String
  deriving DecidableEq, Repr

structure EquipmentRow where
  id : Int
  description : Option String := none
  deriving DecidableEq, Repr

structure OrderRow where
  id : Int
  userId : Int
  description : Option String := none
  statusVersion : Int32 := 0
  deriving DecidableEq, Repr

structure LinkRow where
  orderId : Int
  equipmentId : Int
  deriving DecidableEq, Repr

structure EventRow where
  id : Int
  orderId : Int
  status : String
  comment : Option String
  createdAt : Instant
  changedBy : Option Int
  deriving DecidableEq, Repr

structure RecordRow where
  id : Int
  equipmentId : Int
  status : String
  startDate : Instant
  endDate : Instant
  orderId : Option Int
  deriving DecidableEq, Repr

/-- All tables. -/
structure Store where
  schema : Schema
  users : List UserRow := []
  equipment : List EquipmentRow := []
  orders : List OrderRow := []
  links : List LinkRow := []
  events : List EventRow := []
  records : List RecordRow := []
  deriving Repr

/-- Store operations: a result or a storage error, with the store after the operation. -/
abbrev Op := EStateM DbError Store

namespace Op

def atomically (op : Op α) : Op α := fun s =>
  match op s with
  | .ok a s' => .ok a s'
  | .error e _ => .error e s

def fail (e : DbError) : Op α := fun s => .error e s

end Op

namespace Store

/-- The id the database gives a new row: one more than the largest id in use, and at least 1. -/
def nextId (ids : List Int) : Int := ids.foldl max 0 + 1

def insertBy (key : α → Int) (r : α) : List α → List α
  | [] => [r]
  | x :: xs => if key r < key x then r :: x :: xs else x :: insertBy key r xs

def hasUser (s : Store) (id : Int) : Bool := s.users.any (·.id == id)

def hasOrder (s : Store) (id : Int) : Bool := s.orders.any (·.id == id)

def hasEquipment (s : Store) (id : Int) : Bool := s.equipment.any (·.id == id)

/-- Whether an id fits the 32 bits the service reads ids as. -/
def fitsId (id : Int) : Bool := decide (-2147483648 ≤ id ∧ id ≤ 2147483647)

/-- The outcome of an insert that reads the new row back: the row, or, when its id is beyond
32 bits, a failure with the row already written. -/
def readBack (id : Int) (row : α) (s : Store) : EStateM.Result DbError Store α :=
  if fitsId id then .ok row s else .error (.idTooLarge "id") s

def uniqueFailed (code : Nat) (columns : String) : DbError :=
  .query code ("UNIQUE constraint failed: " ++ columns)

def insertUser (id : Option Int) (login role : String) : Op UserRow := fun s =>
  let id := id.getD (nextId (s.users.map (·.id)))
  if s.hasUser id then .error (uniqueFailed 1555 "user.id") s
  else if s.users.any (·.login == login) then .error (uniqueFailed 2067 "user.login") s
  else
    let row : UserRow := ⟨id, login, role⟩
    readBack id row { s with users := insertBy (·.id) row s.users }

def insertEquipment (id : Option Int) (description : Option String) : Op EquipmentRow := fun s =>
  let id := id.getD (nextId (s.equipment.map (·.id)))
  if s.hasEquipment id then .error (uniqueFailed 1555 "equipment.id") s
  else
    let row : EquipmentRow := ⟨id, description⟩
    readBack id row { s with equipment := insertBy (·.id) row s.equipment }

def insertOrder (id : Option Int) (userId : Int) (description : Option String)
    (version : Int32) : Op OrderRow := fun s =>
  let id := id.getD (nextId (s.orders.map (·.id)))
  if s.hasOrder id then .error (uniqueFailed 1555 "orders.id") s
  else if !s.hasUser userId then .error .foreignKey s
  else
    let row : OrderRow := ⟨id, userId, description, version⟩
    readBack id row { s with orders := insertBy (·.id) row s.orders }

def insertLink (orderId equipmentId : Int) : Op LinkRow := fun s =>
  if s.links.any (fun l => l.orderId == orderId && l.equipmentId == equipmentId) then
    .error (uniqueFailed 1555 "order_equipment.order_id, order_equipment.equipment_id") s
  else if !s.hasOrder orderId || !s.hasEquipment equipmentId then .error .foreignKey s
  else
    let row : LinkRow := ⟨orderId, equipmentId⟩
    .ok row { s with links := s.links ++ [row] }

def acceptsEventStatus (s : Store) (status : String) : Bool :=
  match s.schema with
  | .migrations => (OrderStatus.ofName? status).isSome
  | .entities => true

def acceptsRecordStatus (s : Store) (status : String) : Bool :=
  match s.schema with
  | .migrations => (EquipmentStatus.ofName? status).isSome
  | .entities => true

/-- Adds a status event; the id defaults to the next one. The order, the user who made the
change and, under the production schema, the status name must exist. -/
def insertEvent (id : Option Int) (orderId : Int) (status : String) (comment : Option String)
    (createdAt : Instant) (changedBy : Option Int) : Op EventRow := fun s =>
  let id := id.getD (nextId (s.events.map (·.id)))
  if s.events.any (·.id == id) then .error (uniqueFailed 1555 "order_status.id") s
  else if !s.hasOrder orderId || !(changedBy.all s.hasUser) || !s.acceptsEventStatus status then
    .error .foreignKey s
  else
    let row : EventRow := ⟨id, orderId, status, comment, createdAt, changedBy⟩
    readBack id row { s with events := insertBy (·.id) row s.events }

def insertRecord (id : Option Int) (equipmentId : Int) (status : String)
    (startDate endDate : Instant) (orderId : Option Int) : Op RecordRow := fun s =>
  let id := id.getD (nextId (s.records.map (·.id)))
  if s.records.any (·.id == id) then .error (uniqueFailed 1555 "equipment_status.id") s
  else if !s.hasEquipment equipmentId || !(orderId.all s.hasOrder) ||
      !s.acceptsRecordStatus status then
    .error .foreignKey s
  else
    let row : RecordRow := ⟨id, equipmentId, status, startDate, endDate, orderId⟩
    readBack id row { s with records := insertBy (·.id) row s.records }

end Store

end RentalStatus
