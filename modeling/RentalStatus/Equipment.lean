import RentalStatus.Transition
import RentalStatus.Time.Instant

namespace RentalStatus

/-- An equipment record with a known status. -/
structure EquipmentRecord where
  id : Int
  equipmentId : Int
  status : EquipmentStatus
  startDate : Instant
  endDate : Instant
  orderId : Option Int
  deriving DecidableEq, Repr

/-- A partial rewrite of one record: the fields given are set, the others kept. -/
structure RecordUpdate where
  id : Int
  status : Option EquipmentStatus := none
  startDate : Option Instant := none
  endDate : Option Instant := none
  deriving DecidableEq, Repr

namespace Equipment

def ascendingSet (xs : List Int) : List Int :=
  xs.eraseDups.mergeSort fun a b => decide (a ≤ b)

/-- The items that block a change to `target`: the distinct equipment ids of records whose
status differs from the rule's precondition, ascending. Empty when the target has no
precondition. -/
def notReady (target : OrderStatus) (records : List EquipmentRecord) : List Int :=
  match Rule.preconditionFor target with
  | none => []
  | some required =>
    ascendingSet ((records.filter (·.status != required)).map (·.equipmentId))

def extendsBooking (current : OrderStatus) (role : Role) : Bool :=
  match current with
  | .inProgress | .overdue => true
  | .approved | .blocked | .prepared => role == .manager
  | _ => false

/-- The rewrites that a change from `current` to `target` by a principal of `role` makes to
the order's records, one per record in their order. -/
def updates (target current : OrderStatus) (role : Role) (records : List EquipmentRecord) :
    List RecordUpdate :=
  match Rule.effectFor target with
  | .unchanged => []
  | .setAll s => records.map fun r => { id := r.id, status := some s }
  | .release =>
    let extend := extendsBooking current role
    records.map fun r =>
      { id := r.id, status := some .available,
        endDate := if extend then some r.endDate.addDay else none }

end Equipment

end RentalStatus
