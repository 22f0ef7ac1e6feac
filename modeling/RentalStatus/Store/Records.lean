import RentalStatus.Store.Basic
import RentalStatus.Store.Events
import RentalStatus.Equipment

namespace RentalStatus

namespace RecordRow

/-- The stored record with its status read; an id beyond 32 bits or a status text that names
no status is refused. -/
def read (r : RecordRow) : Except DbError EquipmentRecord :=
  if !Store.fitsId r.id then .error (.idTooLarge "id") else
  match EquipmentStatus.ofName? r.status with
  | some st => .ok ⟨r.id, r.equipmentId, st, r.startDate, r.endDate, r.orderId⟩
  | none => .error (.custom ("Invalid equipment status '" ++ r.status ++ "' stored for record " ++
      toString r.id))

/-- The row after an update: the fields the update gives, the others as they were. -/
def apply (r : RecordRow) (u : RecordUpdate) : RecordRow :=
  { r with
    status := (u.status.map (·.name)).getD r.status
    startDate := u.startDate.getD r.startDate
    endDate := u.endDate.getD r.endDate }

end RecordRow

namespace Store

def recordRowsOf (s : Store) (orderId : Int) : List RecordRow :=
  s.records.filter (·.orderId == some orderId)

def recordsOf (orderId : Int) : Op (List EquipmentRecord) := fun s =>
  let rows := s.recordRowsOf orderId
  match if rows.all (fitsId ·.id) then rows.mapM RecordRow.read else .error (.idTooLarge "id") with
  | .ok rs => .ok rs s
  | .error e => .error e s

/-- Rewrites one record by an update and reads it back. A missing record is an error. -/
def updateRecord (u : RecordUpdate) : Op EquipmentRecord := fun s =>
  match s.records.find? (·.id == u.id) with
  | none => .error (.recordNotFound ("Equipment status record " ++ toString u.id ++ " not found")) s
  | some r =>
    let r' := r.apply u
    let s' := { s with records := s.records.map fun x => if x.id == u.id then r' else x }
    match r'.read with
    | .ok rec => .ok rec s'
    | .error e => .error e s'

end Store

end RentalStatus
