import RentalStatus.Json.Value
import RentalStatus.Guard
import RentalStatus.Time.Rfc3339

namespace RentalStatus

structure Refusal where
  kind : String
  message : String
  deriving DecidableEq, Repr

/-- Reading a request. -/
abbrev Decode := Except Refusal

namespace Decode

def bad (msg : String) : Decode α := .error ⟨"BadInput", msg⟩

def field (j : Json) (k : String) : Decode Json :=
  match j.get? k with
  | some v => pure v
  | none => bad ("missing field '" ++ k ++ "'")

def optional (j : Json) (k : String) : Option Json :=
  match j.get? k with
  | none | some .null => none
  | some v => some v

def present (j : Json) (k : String) : Bool := (j.get? k).isSome

def asString (k : String) : Json → Decode String
  | .str s => pure s
  | _ => bad ("field '" ++ k ++ "' must be a string")

def asText (k : String) : Json → Decode String
  | .str s => pure s
  | _ => bad ("field '" ++ k ++ "' must be a string or null")

def textOr (j : Json) (k : String) (dflt : String) : String :=
  match j.get? k with
  | some (.str s) => s
  | _ => dflt

def flagOr (j : Json) (k : String) (dflt : Bool) : Bool :=
  match j.get? k with
  | some (.bool b) => b
  | _ => dflt

def asBool (k : String) : Json → Decode Bool
  | .bool b => pure b
  | _ => bad ("field '" ++ k ++ "' must be a boolean")

def asList (k : String) : Json → Decode (List Json)
  | .arr xs => pure xs
  | _ => bad ("field '" ++ k ++ "' must be an array")

def asListOrNull (k : String) : Json → Decode (List Json)
  | .null => pure []
  | v => asList k v

def i32Min : Int := -2147483648
def i32Max : Int := 2147483647

def asId (k : String) : Json → Decode Int
  | .num n =>
    match n.toInt? with
    | some v => if i32Min ≤ v ∧ v ≤ i32Max then pure v else bad ("field '" ++ k ++ "' must be a 32-bit integer")
    | none => bad ("field '" ++ k ++ "' must be a 32-bit integer")
  | _ => bad ("field '" ++ k ++ "' must be a 32-bit integer")

def u32Max : Nat := 4294967295

def asCount (k : String) : Json → Decode Nat
  | .num (.nat n) => if n ≤ u32Max then pure n else bad ("field '" ++ k ++ "' must be a u32")
  | _ => bad ("field '" ++ k ++ "' must be a u32")

def asAtMost (bound : Nat) (k : String) : Json → Decode Nat
  | .num (.nat n) => if n ≤ bound then pure n else bad ("field '" ++ k ++ "' must be 0..=" ++ toString bound)
  | _ => bad ("field '" ++ k ++ "' must be 0..=" ++ toString bound)

def asInstant (k : String) (j : Json) : Decode Instant := do
  let s ← asString k j
  match Instant.ofRfc3339? s with
  | some t => pure t
  | none => bad ("field '" ++ k ++ "' is not an RFC 3339 date")

def orderStatusNamed (s : String) : Decode OrderStatus :=
  match OrderStatus.ofName? s with
  | some t => pure t
  | none => bad ("unknown order status '" ++ s ++ "'")

def equipmentStatusNamed (s : String) : Decode EquipmentStatus :=
  match EquipmentStatus.ofName? s with
  | some t => pure t
  | none => bad ("unknown equipment status '" ++ s ++ "'")

def asOrderStatus (k : String) (j : Json) : Decode OrderStatus := do
  orderStatusNamed (← asString k j)

def asEquipmentStatus (k : String) (j : Json) : Decode EquipmentStatus := do
  equipmentStatusNamed (← asString k j)

def asRole (k : String) (j : Json) : Decode Role := do
  let s ← asString k j
  match Role.ofName? s with
  | some r => pure r
  | none => bad ("unknown role '" ++ s ++ "'")

def str (j : Json) (k : String) : Decode String := do asString k (← field j k)
def id (j : Json) (k : String) : Decode Int := do asId k (← field j k)
def list (j : Json) (k : String) : Decode (List Json) := do asList k (← field j k)
def orderStatus (j : Json) (k : String) : Decode OrderStatus := do asOrderStatus k (← field j k)
def role (j : Json) (k : String) : Decode Role := do asRole k (← field j k)

def opt (j : Json) (k : String) (f : String → Json → Decode α) : Decode (Option α) :=
  match j.get? k with
  | none => pure none
  | some v => some <$> f k v

def nullable (j : Json) (k : String) (f : String → Json → Decode α) : Decode (Option α) :=
  match optional j k with
  | none => pure none
  | some v => some <$> f k v

def text? (j : Json) (k : String) : Decode (Option String) := nullable j k asText

def textOrElse (j : Json) (k : String) (dflt : String) : Decode String := do
  return (← text? j k).getD dflt

def optOr (j : Json) (k : String) (f : String → Json → Decode α) (dflt : α) : Decode α := do
  return (← opt j k f).getD dflt

def instantOr (j : Json) (k : String) (dflt : Instant) : Decode Instant :=
  optOr j k asInstant dflt

def principal (j : Json) : Decode Principal := do
  let p ← field j "principal"
  return ⟨← id p "id", ← role p "role"⟩

def policy (j : Json) : Decode Policy := do
  match optional j "policy" with
  | none => pure .strict
  | some v =>
    match Policy.ofName (← asString "policy" v) with
    | .ok p => pure p
    | .error msg => .error ⟨"PolicyParse", msg⟩

end Decode

def Instant.ofText (s : String) : Instant := (Instant.ofRfc3339? s).getD ⟨0, 0⟩

end RentalStatus
