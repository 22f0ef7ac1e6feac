import RentalStatus.Time.Civil

namespace RentalStatus

/-- A point of time in UTC, with nanosecond resolution and room for a leap second. -/
structure Instant where
  secs : Int
  nanos : Nat
  deriving DecidableEq, Repr, Inhabited

namespace Instant

def daySeconds : Int := 86400

def second : Nat := 1000000000

instance : Ord Instant := ⟨fun a b => (compare a.secs b.secs).then (compare a.nanos b.nanos)⟩

instance : LT Instant := ⟨fun a b => compare a b = .lt⟩

instance : LE Instant := ⟨fun a b => compare a b ≠ .gt⟩

instance (a b : Instant) : Decidable (a < b) := inferInstanceAs (Decidable (compare a b = .lt))

instance (a b : Instant) : Decidable (a ≤ b) := inferInstanceAs (Decidable (compare a b ≠ .gt))

def ofDateTime (d : Date) (hour minute second : Nat) (nanos : Nat) : Instant :=
  ⟨d.toDays * daySeconds + hour * 3600 + minute * 60 + second, nanos⟩

def date (t : Instant) : Date := Date.ofDays (t.secs / daySeconds)

def secondOfDay (t : Instant) : Nat := (t.secs % daySeconds).toNat

def addSeconds (t : Instant) (n : Int) : Instant :=
  if n = 0 then t
  else if second ≤ t.nanos then ⟨t.secs + n, t.nanos - second⟩
  else ⟨t.secs + n, t.nanos⟩

/-- The instant one day (86400 seconds) later. -/
def addDay (t : Instant) : Instant := t.addSeconds daySeconds

def min (a b : Instant) : Instant := if b < a then b else a

theorem lt_iff (a b : Instant) :
    a < b ↔ a.secs < b.secs ∨ (a.secs = b.secs ∧ a.nanos < b.nanos) := by
  show (compare a.secs b.secs).then (compare a.nanos b.nanos) = .lt ↔ _
  rcases Int.lt_trichotomy a.secs b.secs with h | h | h
  · simp [Ordering.then, h, Int.compare_eq_lt.mpr h]
  · have h1 : compare a.secs b.secs = .eq := Int.compare_eq_eq.mpr h
    rw [h1]
    simp only [Ordering.then, h, Nat.compare_eq_lt, Int.lt_irrefl, false_or, true_and]
  · have h1 : compare a.secs b.secs = .gt := Int.compare_eq_gt.mpr h
    simp only [Ordering.then, h1, reduceCtorEq, false_iff, not_or, not_and]
    exact ⟨by omega, by omega⟩

end Instant

end RentalStatus
