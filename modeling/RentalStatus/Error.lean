import RentalStatus.Status

namespace RentalStatus

/-- Why a status request was refused. -/
inductive OrderStatusError where
  | emptyStatus
  | unknownStatus (raw : String)
  | orderNotFound (orderId : Int)
  | transitionDenied (userId orderId : Int) (source target : OrderStatus)
  | accessDenied (userId orderId : Int)
  | equipmentNotReady (required : EquipmentStatus) (equipmentIds : List Int)
  | versionConflict (orderId : Int)
  deriving DecidableEq, Repr

def braceSet (xs : List Int) : String :=
  "\x7b" ++ ", ".intercalate (xs.map toString) ++ "\x7d"

namespace OrderStatusError

def message : OrderStatusError → String
  | emptyStatus => "Order status is required"
  | unknownStatus raw => "Unknown order status '" ++ raw ++ "'"
  | orderNotFound o => "Order " ++ toString o ++ " not found"
  | transitionDenied u o a b =>
    "User " ++ toString u ++ " may not move order " ++ toString o ++ " from " ++ a.name ++
      " to " ++ b.name
  | accessDenied u o => "User " ++ toString u ++ " may not view order " ++ toString o
  | equipmentNotReady s ids =>
    "All equipment must be " ++ s.name ++ " before this change, not ready: " ++ braceSet ids
  | versionConflict o =>
    "Order " ++ toString o ++ " status was changed concurrently, retry the request"

end OrderStatusError

/-- A failure of the storage layer. -/
inductive DbError where
  | custom (text : String)
  | query (code : Nat) (text : String)
  | recordNotFound (text : String)
  | undecodable (column reason : String)
  deriving DecidableEq, Repr

namespace DbError

def message : DbError → String
  | custom t => "Custom Error: " ++ t
  | query c t => "Query Error: error returned from database: (code: " ++ toString c ++ ") " ++ t
  | recordNotFound t => "RecordNotFound Error: " ++ t
  | undecodable c r => "Query Error: error occurred while decoding column \"" ++ c ++ "\": " ++ r

def foreignKey : DbError := query 787 "FOREIGN KEY constraint failed"

def idTooLarge (column : String) : DbError := undecodable column "number too large to fit in target type"

end DbError

/-- An error of an engine call: a refusal of the request or a storage failure. -/
inductive EngineError where
  | status (e : OrderStatusError)
  | db (e : DbError)
  deriving DecidableEq, Repr

def EngineError.message : EngineError → String
  | .status e => e.message
  | .db e => e.message

end RentalStatus
