import RentalStatus.Console.Request
import RentalStatus.Json.Encode

namespace RentalStatus

namespace Refusal

def statusCause : OrderStatusError → String
  | .emptyStatus => "EmptyStatus"
  | .unknownStatus _ => "UnknownStatus"
  | .orderNotFound _ => "OrderNotFound"
  | .transitionDenied .. => "TransitionDenied"
  | .accessDenied .. => "AccessDenied"
  | .equipmentNotReady .. => "EquipmentNotReady"
  | .versionConflict _ => "VersionConflict"

def dbCause : DbError → String
  | .custom _ => "Custom"
  | .query .. => "Query"
  | .undecodable .. => "Query"
  | .recordNotFound _ => "RecordNotFound"

def ofStatus (e : OrderStatusError) : Refusal := ⟨"OrderStatusErr." ++ statusCause e, e.message⟩

def ofDb (e : DbError) : Refusal := ⟨"DbErr." ++ dbCause e, e.message⟩

def ofEngine : EngineError → Refusal
  | .status e => ofStatus e
  | .db e => ofDb e

def setup (e : DbError) : Refusal := ⟨"SetupError", e.message⟩

def toJson (r : Refusal) : Json := Json.object [("error", .str r.kind), ("message", .str r.message)]

end Refusal

def Store.snapshot (s : Store) : Json :=
  Json.object [
    ("orders", .ofList (fun (o : OrderRow) => Json.object
      [("id", .ofInt o.id), ("status_version", .ofInt o.statusVersion.toInt)]) s.orders),
    ("equipment_statuses", .ofList RecordRow.toJson s.records),
    ("event_count", .ofInt s.events.length)]

end RentalStatus
