namespace RentalStatus

/-- Where an order stands in its lifecycle. -/
inductive OrderStatus where
  | inReview
  | approved
  | rejected
  | prepared
  | inProgress
  | overdue
  | blocked
  | closed
  deriving DecidableEq, Repr, Inhabited

namespace OrderStatus

def all : List OrderStatus :=
  [inReview, approved, rejected, prepared, inProgress, overdue, blocked, closed]

def name : OrderStatus → String
  | inReview => "InReview"
  | approved => "Approved"
  | rejected => "Rejected"
  | prepared => "Prepared"
  | inProgress => "InProgress"
  | overdue => "Overdue"
  | blocked => "Blocked"
  | closed => "Closed"

def ofName? (s : String) : Option OrderStatus := all.find? (·.name == s)

theorem mem_all (s : OrderStatus) : s ∈ all := by cases s <;> decide

theorem name_injective {a b : OrderStatus} (h : a.name = b.name) : a = b := by
  cases a <;> cases b <;> first | rfl | (simp [name] at h)

theorem ofName?_name (s : OrderStatus) : ofName? s.name = some s := by
  cases s <;> rfl

theorem name_ofName? {s : String} {t : OrderStatus} (h : ofName? s = some t) : t.name = s := by
  simp only [ofName?] at h
  have := List.find?_some h
  simpa using this

theorem ofName?_eq_some_iff {s : String} {t : OrderStatus} : ofName? s = some t ↔ t.name = s :=
  ⟨name_ofName?, fun h => h ▸ ofName?_name t⟩

end OrderStatus

/-- What an equipment item is doing over a stretch of time. -/
inductive EquipmentStatus where
  | available
  | booked
  | inUse
  | notAvailable
  deriving DecidableEq, Repr, Inhabited

namespace EquipmentStatus

def all : List EquipmentStatus := [available, booked, inUse, notAvailable]

def name : EquipmentStatus → String
  | available => "Available"
  | booked => "Booked"
  | inUse => "InUse"
  | notAvailable => "NotAvailable"

def ofName? (s : String) : Option EquipmentStatus := all.find? (·.name == s)

theorem ofName?_name (s : EquipmentStatus) : ofName? s.name = some s := by
  cases s <;> rfl

theorem name_ofName? {s : String} {t : EquipmentStatus} (h : ofName? s = some t) :
    t.name = s := by
  simp only [ofName?] at h
  have := List.find?_some h
  simpa using this

end EquipmentStatus

def sortNames (names : List String) : List String :=
  names.mergeSort fun a b => decide (a ≤ b)

end RentalStatus
