import RentalStatus.Console.Encode

namespace RentalStatus

namespace Console

open Decode

def defaultStart : Instant := Instant.ofText "2023-02-01T12:00:00Z"
def defaultEnd : Instant := Instant.ofText "2023-02-10T12:00:00Z"

def record (j : Json) : Decode EquipmentRecord := do
  return {
    id := ← id j "id"
    equipmentId := ← id j "equipment_id"
    status := ← asEquipmentStatus "status" (← field j "status")
    startDate := ← instantOr j "start_date" defaultStart
    endDate := ← instantOr j "end_date" defaultEnd
    orderId := ← nullable j "order_id" asId }

def ruleOf (j : Json) : Decode Json := do
  let a ← orderStatus j "from"
  let b ← orderStatus j "to"
  return (rule a b).toJson

def authorizeOf (j : Json) : Decode Json := do
  let pol ← policy j
  let p ← principal j
  let a ← orderStatus j "from"
  let b ← orderStatus j "to"
  let owner ← id j "owner_id"
  return .bool (authorize pol p owner (rule a b))

def outcome : Except Json Json → Json
  | .ok v => Json.object [("ok", v)]
  | .error e => Json.object [("err", e)]

def parseOf (j : Json) : Decode Json := do
  let kind ← str j "kind"
  let v ← str j "value"
  let named (x : Option String) : Json := outcome (match x with
    | some n => .ok (.str n)
    | none => .error (.str v))
  if kind = "order_status" then
    return named ((OrderStatus.ofName? v).map (·.name))
  else if kind = "equipment_status" then
    return named ((EquipmentStatus.ofName? v).map (·.name))
  else if kind = "role" then
    return outcome (match Role.ofName? v with
      | some r => .ok (Json.object [("role", .str r.name), ("is_staff", .bool r.isStaff)])
      | none => .error (.str v))
  else if kind = "policy" then
    return outcome (match Policy.ofName v with
      | .ok p => .ok (.str p.label)
      | .error msg => .error (.str msg))
  else bad ("unknown parse kind '" ++ kind ++ "'")

def requireOf (j : Json) : Decode Json := do
  let records ← (← list j "records").mapM record
  let target ← orderStatus j "target"
  match Equipment.notReady target records with
  | [] => return .null
  | ids => .error (Refusal.ofStatus (.equipmentNotReady .booked ids))

def updatesOf (j : Json) : Decode Json := do
  let records ← (← list j "records").mapM record
  let target ← orderStatus j "target"
  let current ← orderStatus j "current"
  let r ← role j "role"
  return .ofList RecordUpdate.toJson (Equipment.updates target current r records)

end Console

end RentalStatus
