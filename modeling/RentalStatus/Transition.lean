import RentalStatus.Status
import RentalStatus.Role

namespace RentalStatus

/-- How a status change rewrites the equipment records of its order. -/
inductive EquipmentEffect where
  /-- The records stay as they are. -/
  | unchanged
  /-- Every record takes the given status; dates stay. -/
  | setAll (status : EquipmentStatus)
  /-- Every record becomes available; the booking may be extended by a day. -/
  | release
  deriving DecidableEq, Repr

/-- The rule for one change from a status to a status. -/
structure Rule where
  source : OrderStatus
  target : OrderStatus
  allowedRoles : List Role
  ownerMayCancel : Bool
  precondition : Option EquipmentStatus
  effect : EquipmentEffect
  deriving DecidableEq, Repr

namespace Rule

open OrderStatus in
def roles (source target : OrderStatus) : List Role :=
  match source, target with
  | inReview, approved | inReview, rejected => [.manager]
  | approved, prepared => [.operator, .admin]
  | approved, closed => [.manager]
  | prepared, inProgress => [.operator]
  | prepared, closed => [.manager, .operator]
  | inProgress, closed | overdue, closed => [.manager, .operator]
  | blocked, closed => [.manager]
  | _, _ => []

open OrderStatus in
def ownerCancels (source target : OrderStatus) : Bool :=
  target == closed && (source == inReview || source == approved || source == prepared)

def preconditionFor : OrderStatus → Option EquipmentStatus
  | .prepared | .inProgress => some .booked
  | _ => none

def effectFor : OrderStatus → EquipmentEffect
  | .rejected => .setAll .available
  | .inProgress => .setAll .inUse
  | .closed => .release
  | _ => .unchanged

def hasListedRoles (r : Rule) : Bool := !r.allowedRoles.isEmpty

end Rule

/-- The rule for changing an order from `source` to `target`. -/
def rule (source target : OrderStatus) : Rule where
  source := source
  target := target
  allowedRoles := Rule.roles source target
  ownerMayCancel := Rule.ownerCancels source target
  precondition := Rule.preconditionFor target
  effect := Rule.effectFor target

end RentalStatus
