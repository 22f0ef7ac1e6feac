namespace RentalStatus

/-- The role a user holds. -/
inductive Role where
  | admin
  | manager
  | operator
  | user
  deriving DecidableEq, Repr, Inhabited

namespace Role

def all : List Role := [admin, manager, operator, user]

def name : Role → String
  | admin => "Admin"
  | manager => "Manager"
  | operator => "Operator"
  | user => "User"

def ofName? (s : String) : Option Role := all.find? (·.name == s)

def isStaff : Role → Bool
  | user => false
  | _ => true

theorem ofName?_name (r : Role) : ofName? r.name = some r := by
  cases r <;> rfl

theorem isStaff_iff (r : Role) : r.isStaff = true ↔ r ≠ user := by
  cases r <;> simp [isStaff]

end Role

/-- The user a request acts for: an id and the role read for it. -/
structure Principal where
  id : Int
  role : Role
  deriving DecidableEq, Repr

end RentalStatus
