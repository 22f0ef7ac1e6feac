import RentalStatus.Console.Rules

namespace RentalStatus

namespace Console

open Decode

def defaultCreated : Instant := Instant.ofText "2023-01-15T09:00:00Z"

abbrev Setup := EStateM Refusal Store

namespace Setup

def read (d : Decode α) : Setup α := fun s =>
  match d with
  | .ok a => .ok a s
  | .error r => .error r s

def run (op : Op α) : Setup α := fun s =>
  match op s with
  | .ok a s' => .ok a s'
  | .error e s' => .error (Refusal.setup e) s'

end Setup

open Setup

def items (j : Json) (k : String) : Decode (List Json) := do
  return (← opt j k asListOrNull).getD []

def seedUser (j : Json) : Setup Unit := do
  let uid ← read (id j "id")
  let login ← read (textOrElse j "login" ("user" ++ toString uid))
  let role ← read (textOrElse j "role" "User")
  discard <| run (Store.insertUser (some uid) login role)

def seedOrder (j : Json) : Setup Unit := do
  let oid ← read (id j "id")
  let owner ← read (id j "user_id")
  let v ← read (nullable j "status_version" asId)
  discard <| read (opt j "rent_start" asInstant)
  discard <| read (opt j "rent_end" asInstant)
  discard <| run (Store.insertOrder (some oid) owner none (Int32.ofInt (v.getD 0)))

def seedRecord (j : Json) : Setup Unit := do
  let rid ← read (nullable j "id" asId)
  let eid ← read (id j "equipment_id")
  let status ← read (str j "status")
  let start ← read (instantOr j "start_date" defaultStart)
  let stop ← read (instantOr j "end_date" defaultEnd)
  let oid ← read (nullable j "order_id" asId)
  discard <| run (Store.insertRecord rid eid status start stop oid)

def seedEvent (j : Json) : Setup Unit := do
  let eid ← read (nullable j "id" asId)
  let oid ← read (id j "order_id")
  let status ← read (str j "status")
  let comment ← read (text? j "comment")
  let created ← read (instantOr j "created_at" defaultCreated)
  let by_ ← read (nullable j "changed_by" asId)
  discard <| run (Store.insertEvent eid oid status comment created by_)

def seedEquipment (j : Json) : Decode (List Int) := do
  let referred ← (← items j "equipment_statuses").mapM fun r => id r "equipment_id"
  let listed ← (← items j "equipment").mapM (asId "equipment")
  return Equipment.ascendingSet (referred ++ listed)

def seedRows (j : Json) : Setup Unit := do
  (← read (items j "users")).forM seedUser
  (← read (seedEquipment j)).forM fun e => discard <| run (Store.insertEquipment (some e) none)
  (← read (items j "orders")).forM seedOrder
  (← read (items j "equipment_statuses")).forM seedRecord
  (← read (items j "events")).forM seedEvent

def freshLogin (s : Store) : String :=
  let taken := s.users.map (·.login)
  let n := (List.range (taken.length + 1)).find? (fun n => !taken.contains ("user_" ++ toString (n + 1)))
  "user_" ++ toString ((n.getD taken.length) + 1)

structure Period where
  start : Option Instant
  stop : Option Instant

def period (j : Json) : Decode Period := do
  return ⟨← opt j "rent_start" asInstant, ← opt j "rent_end" asInstant⟩

def userFactory (j : Json) : Setup Json := do
  let role ← read (textOrElse j "role" "User")
  let login ← read (text? j "login")
  discard <| read (text? j "name")
  let s ← get
  let u ← run (Store.insertUser none (login.getD (freshLogin s)) role)
  return Json.object [("id", .ofInt u.id), ("role", .str u.role)]

def equipmentFactory (j : Json) : Setup Json := do
  discard <| read (text? j "name")
  let description ← read (text? j "description")
  let e ← run (Store.insertEquipment none description)
  return Json.object [("id", .ofInt e.id), ("description", .ofText? e.description)]

def linkAll (orderId : Int) (equipment : List Int) : Op Unit :=
  equipment.forM fun e => discard (Store.insertLink orderId e)

def orderFactory (j : Json) : Setup Json := do
  let owner ← read (id j "user_id")
  let description ← read (if present j "description" then text? j "description"
    else pure (some "Test order"))
  let equipment ← read do (← items j "equipment_ids").mapM (asId "equipment_ids")
  let o ← run (Store.insertOrder none owner description 0)
  run (linkAll o.id equipment)
  return Json.object [("id", .ofInt o.id), ("user_id", .ofInt o.userId),
    ("description", .ofText? o.description), ("status_version", .ofInt o.statusVersion.toInt)]

def eventFactory (j : Json) : Setup Json := do
  let created ← read (opt j "created_at" asInstant)
  let oid ← read (id j "order_id")
  let status ← read (textOrElse j "status" "InReview")
  let simple := flagOr j "simple" false
  let comment ← if simple then pure none else read (text? j "comment")
  let by_ ← if simple then pure none else read (nullable j "changed_by" asId)
  let e ← run (Store.insertEvent none oid status comment (created.getD defaultCreated) by_)
  return e.toJson

def recordFactory (j : Json) : Setup Json := do
  let eid ← read (id j "equipment_id")
  let simple := flagOr j "simple" false
  let oid ← read (if simple then some <$> id j "order_id" else nullable j "order_id" asId)
  let status ← if simple then pure "Booked" else read (textOrElse j "status" "Booked")
  let start ← read (instantOr j "start_date" defaultStart)
  let stop ← read (instantOr j "end_date" defaultEnd)
  let r ← run (Store.insertRecord none eid status start stop oid)
  return r.toJson

def rentalLimit : Nat := 50

structure RentalPlan where
  owner : Int
  itemCount : Nat
  orderStatus : String
  equipmentStatus : String
  start : Instant
  stop : Instant

def RentalPlan.stock (p : RentalPlan) : Op (OrderRow × List RecordRow) := do
  let items ← (List.range p.itemCount).mapM fun _ => Store.insertEquipment none none
  let ids := items.map (·.id)
  let o ← Store.insertOrder none p.owner (some "Test order") 0
  linkAll o.id ids
  let records ← ids.mapM fun e =>
    Store.insertRecord none e p.equipmentStatus p.start p.stop (some o.id)
  return (o, records)

def RentalPlan.history (p : RentalPlan) (o : OrderRow) (created : Instant) : Op EventRow := do
  let first ← Store.insertEvent none o.id "InReview" none created (some p.owner)
  if p.orderStatus != "InReview" then
    Store.insertEvent none o.id p.orderStatus none (created.addSeconds 3600) none
  else pure first

def RentalPlan.build (p : RentalPlan) (j : Json) : Setup Json := do
  let (o, records) ← run p.stock
  let created ← read (instantOr j "created_at" defaultCreated)
  let last ← run (p.history o created)
  return Json.object [("order_id", .ofInt o.id), ("owner_id", .ofInt p.owner),
    ("equipment_ids", .ofList .ofInt (records.map (·.equipmentId))),
    ("equipment_status_ids", .ofList .ofInt (records.map (·.id))),
    ("equipment_statuses", .ofList (fun (r : RecordRow) => .str r.status) records),
    ("status_id", .ofInt last.id), ("status", .str last.status),
    ("status_changed_by", .ofId? last.changedBy)]

def rentalFactory (j : Json) (d : Period) : Setup Json := do
  let owner ← read (id j "owner_id")
  let form := textOr j "form" "default"
  let count ← read (opt j "equipment_count" (asAtMost rentalLimit))
  let orderStatus ← read (textOrElse j "order_status" "InReview")
  let equipmentStatus ← read (textOrElse j "equipment_status" "Booked")
  let plan : RentalPlan :=
    ⟨owner, count.getD 1, orderStatus, equipmentStatus, d.start.getD defaultStart,
      d.stop.getD defaultEnd⟩
  if form = "default" then
    RentalPlan.build { plan with orderStatus := "InReview", equipmentStatus := "Booked" } j
  else if form = "in_status" || form = "builder" then plan.build j
  else read (bad ("unknown rental form '" ++ form ++ "'"))

/-- Runs one factory call. -/
def factory (j : Json) : Setup Json := do
  let d ← read (period j)
  let kind ← read (str j "factory")
  if kind = "user" then userFactory j
  else if kind = "equipment" then equipmentFactory j
  else if kind = "order" then orderFactory j
  else if kind = "order_status" then eventFactory j
  else if kind = "equipment_status" then recordFactory j
  else if kind = "rental" then rentalFactory j d
  else read (bad ("unknown factory '" ++ kind ++ "'"))

end Console

end RentalStatus
