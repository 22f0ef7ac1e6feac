import RentalStatus.Json.Read
import RentalStatus.Text.Quoted

namespace RentalStatus

structure StatusChange where
  statusName : String := ""
  comment : Option String := none
  deriving DecidableEq, Repr

inductive BodyFault where
  | malformed (text : String)
  | misshapen (text : String)
  deriving DecidableEq, Repr

namespace StatusChange

open JsonRead

section
variable (bs : ByteArray)

def aString : String := "a string"
def theStruct : String := "struct NewOrderStatusDto"

def numberText : JsonNumber → String
  | .nat n => "integer " ++ "\x60" ++ toString n ++ "\x60"
  | .neg n => "integer " ++ "\x60" ++ toString n ++ "\x60"
  | .float s m e => "floating point " ++ "\x60" ++ JsonNumber.floatText s m e ++ "\x60"

def wrongKind (k : Nat) (found expected : String) : JsonError :=
  fault bs k (.shape ("invalid type: " ++ found ++ ", expected " ++ expected))

def invalidType (i : Nat) (expected : String) : JsonError :=
  match byte? bs i with
  | none => peekFault bs i .eofValue
  | some b =>
    let read (k : Except JsonError Nat) (found : String) : JsonError :=
      match k with
      | .ok k => wrongKind bs k found expected
      | .error e => e
    if b == 110 then read (readIdent bs (i + 1) [117, 108, 108]) "null"
    else if b == 116 then read (readIdent bs (i + 1) [114, 117, 101]) ("boolean " ++ "\x60true\x60")
    else if b == 102 then read (readIdent bs (i + 1) [97, 108, 115, 101]) ("boolean " ++ "\x60false\x60")
    else if b == 45 || isDigitByte b then
      match readNumber bs i with
      | .ok (n, k) => wrongKind bs k (numberText n) expected
      | .error e => e
    else if b == 34 then
      match readString bs (i + 1) with
      | .ok (s, k) => wrongKind bs k ("string " ++ Text.quoted s) expected
      | .error e => e
    else if b == 91 then wrongKind bs i "sequence" expected
    else if b == 123 then wrongKind bs i "map" expected
    else peekFault bs i .expectedValue

def readText (i : Nat) : Except JsonError (String × Nat) :=
  let j := skipBlank bs i
  match byte? bs j with
  | none => .error (peekFault bs j .eofValue)
  | some 34 => readString bs (j + 1)
  | some _ => .error (invalidType bs j aString)

def readComment (i : Nat) : Except JsonError (Option String × Nat) :=
  let j := skipBlank bs i
  match byte? bs j with
  | some 110 => do return (none, ← readIdent bs (j + 1) [117, 108, 108])
  | _ => do
    let (s, k) ← readText bs j
    return (some s, k)

def afterKey (k : Nat) : Nat :=
  let j := skipBlank bs k
  if byte? bs j == some 125 then j + 1 else j

structure Fields where
  change : StatusChange := {}
  seenName : Bool := false
  seenComment : Bool := false

def fieldValue (key : String) (fs : Fields) (i : Nat) : Except JsonError (Fields × Nat) := do
  let c := skipBlank bs i
  let start ← match byte? bs c with
    | some 58 => pure (c + 1)
    | some _ => .error (peekFault bs c .expectedColon)
    | none => .error (peekFault bs c .eofObject)
  let under {α} (x : Except JsonError α) : Except JsonError α := x.mapError (·.under key)
  if key = "status_name" then
    let (s, k) ← under (readText bs start)
    return ({ fs with change := { fs.change with statusName := s }, seenName := true }, k)
  else if key = "comment" then
    let (s, k) ← under (readComment bs start)
    return ({ fs with change := { fs.change with comment := s }, seenComment := true }, k)
  else
    let k ← under (skipValue bs start)
    return (fs, k)

def readMembers (i : Nat) (first : Bool) (fs : Fields) : (fuel : Nat) → Except JsonError (Fields × Nat)
  | 0 => .error (fault bs bs.size .eofObject)
  | fuel + 1 => do
    let j := skipBlank bs i
    let some b := byte? bs j | .error (peekFault bs j .eofObject)
    if b == 125 then return (fs, j)
    let start ←
      if first then pure j
      else if b == 44 then pure (skipBlank bs (j + 1))
      else .error (peekFault bs j .expectedObjectCommaOrEnd)
    match byte? bs start with
    | some 34 =>
      let (key, k) ← readString bs (start + 1)
      if (key = "status_name" && fs.seenName) || (key = "comment" && fs.seenComment) then
        .error (fault bs (afterKey bs k)
          (.shape ("duplicate field " ++ "\x60" ++ key ++ "\x60")))
      let (fs, n) ← fieldValue bs key fs k
      readMembers n false fs fuel
    | some 125 => .error (peekFault bs start .trailingComma)
    | some _ => .error (peekFault bs start .keyMustBeString)
    | none => .error (peekFault bs start .eofValue)

def nextElement (i : Nat) (first : Bool) : Except JsonError (Option Nat) :=
  let j := skipBlank bs i
  match byte? bs j with
  | none => .error (peekFault bs j .eofList)
  | some 93 => .ok none
  | some 44 =>
    if first then .ok (some j)
    else
      let k := skipBlank bs (j + 1)
      match byte? bs k with
      | some 93 => .error (peekFault bs k .trailingComma)
      | some _ => .ok (some k)
      | none => .error (peekFault bs k .eofValue)
  | some _ =>
    if first then .ok (some j)
    else .error (peekFault bs j .expectedListCommaOrEnd)

def endList (i : Nat) : Except JsonError Nat :=
  let j := skipBlank bs i
  match byte? bs j with
  | some 93 => .ok (j + 1)
  | some 44 =>
    let k := skipBlank bs (j + 1)
    if byte? bs k == some 93 then .error (peekFault bs k .trailingComma)
    else .error (peekFault bs k .trailingCharacters)
  | some _ => .error (peekFault bs j .trailingCharacters)
  | none => .error (peekFault bs j .eofList)

def readElements (i : Nat) : Except JsonError (StatusChange × Nat) := do
  match ← nextElement bs i true with
  | none =>
    -- the array ended: the second element is missing too
    let k := skipBlank bs i
    return ({}, ← endList bs k)
  | some j =>
    let (name, k) ← (readText bs j).mapError (·.under "[0]")
    match ← nextElement bs k false with
    | none => return ({ statusName := name }, ← endList bs k)
    | some m =>
      let (comment, n) ← (readComment bs m).mapError (·.under "[1]")
      return ({ statusName := name, comment }, ← endList bs n)

def readBody : Except JsonError StatusChange := do
  let j := skipBlank bs 0
  let (change, k) ← match byte? bs j with
    | none => .error (peekFault bs j .eofValue)
    | some 123 => do
      let (fs, k) ← readMembers bs (j + 1) true {} (bs.size + 1)
      pure (fs.change, k + 1)
    | some 91 => readElements bs (j + 1)
    | some _ => .error (invalidType bs j theStruct)
  finish bs k
  return change

end

/-- Reads the body of a status change. -/
def decode (body : String) : Except BodyFault StatusChange :=
  let bs := body.toUTF8
  match readBody bs with
  | .ok c => .ok c
  | .error e => .error (if e.fault.isShape then .misshapen (e.render bs) else .malformed (e.render bs))

end StatusChange

end RentalStatus
