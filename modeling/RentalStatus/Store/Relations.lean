import RentalStatus.Store.Basic

namespace RentalStatus

inductive Entity where
  | order
  | user
  | equipment
  | equipmentStatus
  | orderStatus
  deriving DecidableEq, Repr

namespace Entity

def name : Entity → String
  | order => "order"
  | user => "user"
  | equipment => "equipment"
  | equipmentStatus => "equipment_status"
  | orderStatus => "order_status"

def ofName? (s : String) : Option Entity :=
  [order, user, equipment, equipmentStatus, orderStatus].find? (·.name == s)

end Entity

namespace Store

def ascending (ids : List Int) : List Int := ids.mergeSort fun a b => decide (a ≤ b)

/-- The rows related to one row, by table, or none when the row does not exist. -/
def related (s : Store) : Entity → Int → Option (List (String × List Int))
  | .order, i => (s.orders.find? (·.id == i)).map fun o =>
      [("user", (s.users.filter (·.id == o.userId)).map (·.id)),
       ("order_status", ascending ((s.events.filter (·.orderId == i)).map (·.id))),
       ("order_equipment", ascending ((s.links.filter (·.orderId == i)).map (·.equipmentId))),
       ("equipment_status",
         ascending ((s.records.filter (·.orderId == some i)).map (·.id)))]
  | .user, i => (s.users.find? (·.id == i)).map fun _ =>
      [("order", ascending ((s.orders.filter (·.userId == i)).map (·.id)))]
  | .equipment, i => (s.equipment.find? (·.id == i)).map fun _ =>
      [("equipment_status", ascending ((s.records.filter (·.equipmentId == i)).map (·.id))),
       ("order_equipment", ascending ((s.links.filter (·.equipmentId == i)).map (·.orderId)))]
  | .equipmentStatus, i => (s.records.find? (·.id == i)).map fun r =>
      [("equipment", (s.equipment.filter (·.id == r.equipmentId)).map (·.id)),
       ("order", (s.orders.filter (fun o => r.orderId == some o.id)).map (·.id))]
  | .orderStatus, i => (s.events.find? (·.id == i)).map fun e =>
      [("order", (s.orders.filter (·.id == e.orderId)).map (·.id))]

end Store

end RentalStatus
