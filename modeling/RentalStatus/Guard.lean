import RentalStatus.Transition

namespace RentalStatus

/-- How changes that list no role are treated. -/
inductive Policy where
  | strict
  | staffOverride
  deriving DecidableEq, Repr, Inhabited

namespace Policy

def ofName (s : String) : Except String Policy :=
  if s = "strict" then .ok .strict
  else if s = "staff-override" then .ok .staffOverride
  else .error ("expected 'strict' or 'staff-override', got '" ++ s ++ "'")

def label : Policy → String
  | strict => "Strict"
  | staffOverride => "StaffOverride"

end Policy

/-- Whether `p` may make the change of rule `r` on an order owned by `owner`. -/
def authorize (policy : Policy) (p : Principal) (owner : Int) (r : Rule) : Bool :=
  if r.ownerMayCancel && p.id == owner then true
  else if r.hasListedRoles then r.allowedRoles.contains p.role
  else
    match policy with
    | .strict => false
    | .staffOverride => p.role.isStaff

end RentalStatus
