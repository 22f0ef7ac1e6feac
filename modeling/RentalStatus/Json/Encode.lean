import RentalStatus.Json.Value
import RentalStatus.Engine
import RentalStatus.Time.Rfc3339

namespace RentalStatus

def Json.ofInstant (t : Instant) : Json := .str t.toRfc3339

namespace Json

def ofString (s : String) : Json := .str s

def ofId? (n : Option Int) : Json := ofOption ofInt n

def ofText? (s : Option String) : Json := ofOption str s

end Json

def Event.toJson (e : Event) : Json :=
  Json.object [("id", .ofInt e.id), ("order_id", .ofInt e.orderId),
    ("status_name", .str e.status.name), ("comment", .ofText? e.comment),
    ("created_at", .ofInstant e.createdAt), ("changed_by", .ofId? e.changedBy)]

def RecordRow.toJson (r : RecordRow) : Json :=
  Json.object [("id", .ofInt r.id), ("equipment_id", .ofInt r.equipmentId),
    ("status", .str r.status), ("start_date", .ofInstant r.startDate),
    ("end_date", .ofInstant r.endDate), ("order_id", .ofId? r.orderId)]

def EquipmentRecord.toJson (r : EquipmentRecord) : Json :=
  Json.object [("id", .ofInt r.id), ("equipment_id", .ofInt r.equipmentId),
    ("status", .str r.status.name), ("start_date", .ofInstant r.startDate),
    ("end_date", .ofInstant r.endDate), ("order_id", .ofId? r.orderId)]

def EventRow.toJson (e : EventRow) : Json :=
  Json.object [("id", .ofInt e.id), ("order_id", .ofInt e.orderId),
    ("status", .str e.status), ("comment", .ofText? e.comment),
    ("created_at", .ofInstant e.createdAt), ("changed_by", .ofId? e.changedBy)]

def EquipmentEffect.toJson : EquipmentEffect → Json
  | .unchanged => .str "Unchanged"
  | .setAll s => Json.object [("SetAll", .str s.name)]
  | .release => .str "Release"

def Rule.toJson (r : Rule) : Json :=
  Json.object [("from", .str r.source.name), ("to", .str r.target.name),
    ("allowed_roles", .ofList (fun x => .str x.name) r.allowedRoles),
    ("has_listed_roles", .bool r.hasListedRoles),
    ("owner_may_cancel", .bool r.ownerMayCancel),
    ("equipment_precondition", .ofOption (fun x => .str x.name) r.precondition),
    ("equipment_effect", r.effect.toJson)]

def RecordUpdate.toJson (u : RecordUpdate) : Json :=
  Json.object [("id", .ofInt u.id), ("status", .ofOption (fun x => .str x.name) u.status),
    ("start_date", .ofOption .ofInstant u.startDate),
    ("end_date", .ofOption .ofInstant u.endDate)]

def CurrentStatus.toJson (c : CurrentStatus) : Json :=
  Json.object [("event", c.event.toJson), ("owner_id", .ofInt c.ownerId),
    ("status_version", .ofInt c.statusVersion.toInt)]

end RentalStatus
