import RentalStatus.Json.Value

namespace RentalStatus

structure Request where
  method : String
  path : String
  contentType : Option String := none
  body : String := ""
  cookies : List String := []
  deriving Repr

inductive Body where
  | empty
  | json (value : Json)
  | text (value : String)
  deriving Repr

/-- A response of the service. -/
structure Response where
  status : Nat
  body : Body
  deriving Repr

namespace Response

def json (status : Nat) (value : Json) : Response := ⟨status, .json value⟩

def error (status : Nat) (message : String) : Response :=
  json status (Json.object [("error", .str message)])

def text (status : Nat) (value : String) : Response := ⟨status, .text value⟩

def bare (status : Nat) : Response := ⟨status, .empty⟩

def notLoggedIn : Response := error 401 "Not logged in"

def forbidden : Response := error 403 "You do not have permission to perform this action"

def internal : Response := error 500 "Internal server error"

def headOnly (r : Response) : Response := { r with body := .empty }

end Response

end RentalStatus
