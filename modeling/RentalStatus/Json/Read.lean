import RentalStatus.Json.Value
import RentalStatus.Json.Binary64

namespace RentalStatus

inductive JsonFault where
  | eofValue
  | eofList
  | eofObject
  | eofString
  | expectedColon
  | expectedListCommaOrEnd
  | expectedObjectCommaOrEnd
  | expectedIdent
  | expectedValue
  | invalidEscape
  | invalidNumber
  | numberOutOfRange
  | invalidCodePoint
  | controlCharacter
  | keyMustBeString
  | loneLeadingSurrogate
  | trailingComma
  | trailingCharacters
  | unexpectedEndOfHexEscape
  | recursionLimit
  | shape (text : String)
  deriving DecidableEq, Repr

namespace JsonFault

def text : JsonFault → String
  | eofValue => "EOF while parsing a value"
  | eofList => "EOF while parsing a list"
  | eofObject => "EOF while parsing an object"
  | eofString => "EOF while parsing a string"
  | expectedColon => "expected `:`"
  | expectedListCommaOrEnd => "expected `,` or `]`"
  | expectedObjectCommaOrEnd => "expected `,` or `\x7d`"
  | expectedIdent => "expected ident"
  | expectedValue => "expected value"
  | invalidEscape => "invalid escape"
  | invalidNumber => "invalid number"
  | numberOutOfRange => "number out of range"
  | invalidCodePoint => "invalid unicode code point"
  | controlCharacter => "control character (\\u0000-\\u001F) found while parsing a string"
  | keyMustBeString => "key must be a string"
  | loneLeadingSurrogate => "lone leading surrogate in hex escape"
  | trailingComma => "trailing comma"
  | trailingCharacters => "trailing characters"
  | unexpectedEndOfHexEscape => "unexpected end of hex escape"
  | recursionLimit => "recursion limit exceeded"
  | shape t => t

def isShape : JsonFault → Bool
  | shape _ => true
  | _ => false

end JsonFault

structure JsonError where
  fault : JsonFault
  index : Nat
  path : List String := []
  deriving DecidableEq, Repr

namespace JsonError

def position (bs : ByteArray) (i : Nat) : Nat × Nat :=
  let before := (bs.toList.take i)
  let lines := before.count 10
  let lastLine := (before.reverse.takeWhile (· != 10)).length
  (lines + 1, lastLine)

def render (bs : ByteArray) (e : JsonError) : String :=
  let (line, col) := position bs e.index
  let prefixText := if e.path.isEmpty then "" else ".".intercalate e.path ++ ": "
  prefixText ++ e.fault.text ++ " at line " ++ toString line ++ " column " ++ toString col

def under (seg : String) (e : JsonError) : JsonError := { e with path := seg :: e.path }

end JsonError

namespace JsonRead

section
variable (bs : ByteArray)

def fault (i : Nat) (f : JsonFault) : JsonError := ⟨f, min i bs.size, []⟩

def peekFault (i : Nat) (f : JsonFault) : JsonError := ⟨f, min bs.size (i + 1), []⟩

def isBlankByte (b : UInt8) : Bool := b == 32 || b == 10 || b == 9 || b == 13

def skipBlank (i : Nat) : Nat :=
  if h : i < bs.size then
    if isBlankByte bs[i] then skipBlank (i + 1) else i
  else i
termination_by bs.size - i

def byte? (i : Nat) : Option UInt8 := bs[i]?

def isDigitByte (b : UInt8) : Bool := 48 ≤ b && b ≤ 57

def hexValue (b : UInt8) : Option Nat :=
  if 48 ≤ b ∧ b ≤ 57 then some (b.toNat - 48)
  else if 65 ≤ b ∧ b ≤ 70 then some (b.toNat - 55)
  else if 97 ≤ b ∧ b ≤ 102 then some (b.toNat - 87)
  else none

def readHex4 (i : Nat) : Except JsonError (Nat × Nat) :=
  if i + 4 ≤ bs.size then
    let ds := [bs[i]?, bs[i+1]?, bs[i+2]?, bs[i+3]?].map (·.bind hexValue)
    match ds with
    | [some a, some b, some c, some d] => .ok (((a * 16 + b) * 16 + c) * 16 + d, i + 4)
    | _ => .error (fault bs (i + 4) .invalidEscape)
  else .error (fault bs bs.size .eofString)

def utf8 (n : Nat) : List UInt8 := (String.singleton (Char.ofNat n)).toUTF8.toList

def readUnicodeEscape (i : Nat) : Except JsonError ((List UInt8) × Nat) := do
  let (n, j) ← readHex4 bs i
  if 0xDC00 ≤ n ∧ n ≤ 0xDFFF then throw (fault bs j .loneLeadingSurrogate)
  if n < 0xD800 ∨ n > 0xDBFF then return (utf8 n, j)
  match byte? bs (j) with
  | none => throw (fault bs bs.size .eofString)
  | some b =>
    if b != 92 then throw (fault bs (j + 1) .unexpectedEndOfHexEscape)
    match byte? bs (j + 1) with
    | none => throw (fault bs bs.size .eofString)
    | some c =>
      if c != 117 then throw (fault bs (j + 2) .unexpectedEndOfHexEscape)
      let (n2, k) ← readHex4 bs (j + 2)
      if n2 < 0xDC00 ∨ n2 > 0xDFFF then throw (fault bs k .loneLeadingSurrogate)
      return (utf8 ((((n - 0xD800) * 1024) ||| (n2 - 0xDC00)) + 0x10000), k)

def readEscape (i : Nat) : Except JsonError ((List UInt8) × Nat) :=
  match byte? bs (i) with
  | none => .error (fault bs bs.size .eofString)
  | some c =>
    if c == 34 then .ok ([34], i + 1)
    else if c == 92 then .ok ([92], i + 1)
    else if c == 47 then .ok ([47], i + 1)
    else if c == 98 then .ok ([8], i + 1)
    else if c == 102 then .ok ([12], i + 1)
    else if c == 110 then .ok ([10], i + 1)
    else if c == 114 then .ok ([13], i + 1)
    else if c == 116 then .ok ([9], i + 1)
    else if c == 117 then readUnicodeEscape bs (i + 1)
    else .error (fault bs (i + 1) .invalidEscape)

def readStringBytes (i : Nat) (acc : Array UInt8) : (fuel : Nat) → Except JsonError ((Array UInt8) × Nat)
  | 0 => .error (fault bs bs.size .eofString)
  | fuel + 1 =>
    match byte? bs (i) with
    | none => .error (fault bs bs.size .eofString)
    | some b =>
      if b == 34 then .ok (acc, i + 1)
      else if b == 92 then
        match readEscape bs (i + 1) with
        | .ok (more, j) => readStringBytes j (acc ++ more.toArray) fuel
        | .error e => .error e
      else if b < 32 then .error (fault bs (i + 1) .controlCharacter)
      else readStringBytes (i + 1) (acc.push b) fuel

def readString (i : Nat) : Except JsonError (String × Nat) := do
  let (raw, j) ← readStringBytes bs i #[] (bs.size + 1)
  match String.fromUTF8? ⟨raw⟩ with
  | some s => return (s, j)
  | none => throw (fault bs j .invalidCodePoint)

def skipString (i : Nat) : (fuel : Nat) → Except JsonError Nat
  | 0 => .error (fault bs bs.size .eofString)
  | fuel + 1 =>
    match byte? bs (i) with
    | none => .error (fault bs bs.size .eofString)
    | some b =>
      if b == 34 then .ok (i + 1)
      else if b == 92 then
        match byte? bs (i + 1) with
        | none => .error (fault bs bs.size .eofString)
        | some c =>
          if c == 117 then
            match readHex4 bs (i + 2) with
            | .ok (_, j) => skipString j fuel
            | .error e => .error e
          else if [34, 92, 47, 98, 102, 110, 114, 116].contains c then skipString (i + 2) fuel
          else .error (fault bs (i + 2) .invalidEscape)
      else if b < 32 then .error (fault bs i .controlCharacter)
      else skipString (i + 1) fuel

def readIdent (i : Nat) : List UInt8 → Except JsonError Nat
  | [] => .ok i
  | c :: cs =>
    match byte? bs (i) with
    | none => .error (fault bs bs.size .eofValue)
    | some b => if b == c then readIdent (i + 1) cs else .error (fault bs (i + 1) .expectedIdent)

def u64Max : Nat := 18446744073709551615

def readDigits (i acc : Nat) : (fuel : Nat) → Nat × Nat
  | 0 => (acc, i)
  | fuel + 1 =>
    match byte? bs (i) with
    | some b =>
      if isDigitByte b ∧ acc * 10 + (b.toNat - 48) ≤ u64Max then
        readDigits (i + 1) (acc * 10 + (b.toNat - 48)) fuel
      else (acc, i)
    | none => (acc, i)

def countDigits (i : Nat) : (fuel : Nat) → Nat
  | 0 => 0
  | fuel + 1 =>
    match byte? bs (i) with
    | some b => if isDigitByte b then countDigits (i + 1) fuel + 1 else 0
    | none => 0

def floatOfParts (negative : Bool) (m : Nat) (e : Int) (i : Nat) : Except JsonError (JsonNumber × Nat) :=
  match Binary64.ofDecimal m e with
  | none => .error (fault bs i .numberOutOfRange)
  | some d =>
    let (digits, k) := d.shortest
    .ok (.float negative digits k, i)

def exponentOverflow : List UInt8 → Nat → Nat → Option Nat
  | [], _, _ => none
  | d :: ds, acc, used =>
    let acc := acc * 10 + (d.toNat - 48)
    if acc > 2147483647 then some (used + 1) else exponentOverflow ds acc (used + 1)

def readExponent (negative : Bool) (m : Nat) (e0 : Int) (i : Nat) : Except JsonError (JsonNumber × Nat) :=
  let (negExp, j) :=
    match byte? bs (i) with
    | some 43 => (false, i + 1)
    | some 45 => (true, i + 1)
    | _ => (false, i)
  match byte? bs (j) with
  | none => .error (fault bs bs.size .eofValue)
  | some d =>
    if !isDigitByte d then .error (fault bs (j + 1) .invalidNumber)
    else
      let n := countDigits bs j (bs.size + 1)
      let k := j + n
      match exponentOverflow ((bs.toList.drop j).take n) 0 0 with
      | some used =>
        if m ≠ 0 ∧ !negExp then .error (fault bs (j + used) .numberOutOfRange)
        else .ok (.float negative 0 0, k)
      | none =>
        let value : Nat := ((bs.toList.drop j).take n).foldl (fun acc b => acc * 10 + (b.toNat - 48)) 0
        let e := if negExp then e0 - (value : Int) else e0 + (value : Int)
        floatOfParts bs negative m e k

def readFraction (negative : Bool) (m : Nat) (e0 : Int) (i : Nat) : Except JsonError (JsonNumber × Nat) :=
  let (m', j) := readDigits bs i m (bs.size + 1)
  let taken := j - i
  let k := j + countDigits bs j (bs.size + 1)
  if k = i then
    match byte? bs (i) with
    | some _ => .error (peekFault bs i .invalidNumber)
    | none => .error (peekFault bs i .eofValue)
  else
    let e := e0 - taken
    match byte? bs (k) with
    | some 101 | some 69 => readExponent bs negative m' e (k + 1)
    | _ => floatOfParts bs negative m' e k

def readNumberTail (negative : Bool) (m : Nat) (e0 : Int) (isInt : Bool) (i : Nat) :
    Except JsonError (JsonNumber × Nat) :=
  match byte? bs (i) with
  | some 46 => readFraction bs negative m e0 (i + 1)
  | some 101 | some 69 => readExponent bs negative m e0 (i + 1)
  | _ =>
    if !isInt then floatOfParts bs negative m e0 i
    else if !negative then .ok (.nat m, i)
    else if 1 ≤ m ∧ m ≤ Nat.pow 2 63 then .ok (.neg (-(m : Int)), i)
    else floatOfParts bs true m 0 i

def readUnsigned (negative : Bool) (i : Nat) : Except JsonError (JsonNumber × Nat) :=
  match byte? bs (i) with
  | none => .error (fault bs bs.size .eofValue)
  | some b =>
    if b == 48 then
      match byte? bs (i + 1) with
      | some c => if isDigitByte c then .error (peekFault bs (i + 1) .invalidNumber)
                  else readNumberTail bs negative 0 0 true (i + 1)
      | none => readNumberTail bs negative 0 0 true (i + 1)
    else if isDigitByte b then
      let (m, j) := readDigits bs i 0 (bs.size + 1)
      let extra := countDigits bs j (bs.size + 1)
      readNumberTail bs negative m extra (extra = 0) (j + extra)
    else .error (fault bs (i + 1) .invalidNumber)

def readNumber (i : Nat) : Except JsonError (JsonNumber × Nat) :=
  match byte? bs (i) with
  | some 45 => readUnsigned bs true (i + 1)
  | _ => readUnsigned bs false i

def skipNumber (i : Nat) : Except JsonError Nat := do
  let j := match byte? bs (i) with
    | some 45 => i + 1
    | _ => i
  let k ← match byte? bs (j) with
    | some 48 =>
      match byte? bs (j + 1) with
      | some c => if isDigitByte c then .error (peekFault bs (j + 1) .invalidNumber) else .ok (j + 1)
      | none => .ok (j + 1)
    | some b =>
      if isDigitByte b then .ok (j + countDigits bs j (bs.size + 1))
      else .error (fault bs (j + 1) .invalidNumber)
    | none => .error (fault bs (j + 1) .invalidNumber)
  let k ← match byte? bs (k) with
    | some 46 =>
      let n := countDigits bs (k + 1) (bs.size + 1)
      if n = 0 then .error (peekFault bs (k + 1) .invalidNumber) else .ok (k + 1 + n)
    | _ => .ok k
  match byte? bs (k) with
  | some 101 | some 69 =>
    let j := match byte? bs (k + 1) with
      | some 43 | some 45 => k + 2
      | _ => k + 1
    match byte? bs (j) with
    | some d =>
      if isDigitByte d then .ok (j + countDigits bs j (bs.size + 1))
      else .error (fault bs (j + 1) .invalidNumber)
    | none => .error (fault bs (j + 1) .invalidNumber)
  | _ => .ok k

/-- What `skipValue` has open: an array or an object. -/
inductive Frame where
  | list
  | object
  deriving DecidableEq

def afterMember (i : Nat) (frames : List Frame) : (fuel : Nat) → Except JsonError (Nat × List Frame)
  | 0 => .error (fault bs bs.size .eofValue)
  | fuel + 1 =>
    match frames with
    | [] => .ok (i, [])
    | f :: rest =>
      let j := skipBlank bs i
      match byte? bs (j) with
      | none => .error (peekFault bs j (if f == .list then .eofList else .eofObject))
      | some b =>
        if b == 44 then
          if f == .list then .ok (j + 1, frames)
          else
            let k := skipBlank bs (j + 1)
            match byte? bs (k) with
            | some 34 => .ok (k, frames)
            | some _ => .error (peekFault bs k .keyMustBeString)
            | none => .error (peekFault bs k .eofValue)
        else if (b == 93 && f == .list) || (b == 125 && f == .object) then
          afterMember (j + 1) rest fuel
        else
          .error (peekFault bs j
            (if f == .list then .expectedListCommaOrEnd else .expectedObjectCommaOrEnd))

def skipKey (i : Nat) : Except JsonError Nat := do
  let j ← skipString bs (i + 1) (bs.size + 1)
  let k := skipBlank bs j
  match byte? bs (k) with
  | some 58 => return k + 1
  | some _ => throw (peekFault bs k .expectedColon)
  | none => throw (peekFault bs k .eofObject)

def skipFrom (i : Nat) (frames : List Frame) : (fuel : Nat) → Except JsonError Nat
  | 0 => .error (fault bs bs.size .eofValue)
  | fuel + 1 => do
    let j := skipBlank bs i
    let some b := bs[j]? | throw (peekFault bs j .eofValue)
    -- an opening bracket: its first member, or its end at once
    if b == 91 || b == 123 then
      let f := if b == 91 then Frame.list else Frame.object
      let k := skipBlank bs (j + 1)
      match byte? bs (k) with
      | none => throw (peekFault bs k (if f == .list then .eofList else .eofObject))
      | some c =>
        if (c == 93 && f == .list) || (c == 125 && f == .object) then
          match ← afterMember bs (k + 1) frames (bs.size + 1) with
          | (n, []) => return n
          | (n, fs) =>
            if fs.head? == some .object then skipFrom (← skipKey bs n) fs fuel
            else skipFrom n fs fuel
        else if f == .object then
          if c == 34 then skipFrom (← skipKey bs k) (f :: frames) fuel
          else throw (peekFault bs k .keyMustBeString)
        else skipFrom k (f :: frames) fuel
    else
      let k ←
        if b == 110 then readIdent bs (j + 1) [117, 108, 108]
        else if b == 116 then readIdent bs (j + 1) [114, 117, 101]
        else if b == 102 then readIdent bs (j + 1) [97, 108, 115, 101]
        else if b == 45 || isDigitByte b then skipNumber bs j
        else if b == 34 then skipString bs (j + 1) (bs.size + 1)
        else throw (peekFault bs j .expectedValue)
      match ← afterMember bs k frames (bs.size + 1) with
      | (n, []) => return n
      | (n, fs) =>
        if fs.head? == some .object then skipFrom (← skipKey bs n) fs fuel
        else skipFrom n fs fuel

def skipValue (i : Nat) : Except JsonError Nat := skipFrom bs i [] (2 * bs.size + 2)

mutual
def readValueAt (i : Nat) (depth : Nat) : (fuel : Nat) → Except JsonError (Json × Nat)
  | 0 => .error (fault bs bs.size .eofValue)
  | fuel + 1 => do
    let j := skipBlank bs i
    let some b := bs[j]? | throw (peekFault bs j .eofValue)
    if b == 110 then return (.null, ← readIdent bs (j + 1) [117, 108, 108])
    else if b == 116 then return (.bool true, ← readIdent bs (j + 1) [114, 117, 101])
    else if b == 102 then return (.bool false, ← readIdent bs (j + 1) [97, 108, 115, 101])
    else if b == 45 || isDigitByte b then
      let (n, k) ← readNumber bs j
      return (.num n, k)
    else if b == 34 then
      let (s, k) ← readString bs (j + 1)
      return (.str s, k)
    else if b == 91 then
      if depth ≤ 1 then throw (peekFault bs j .recursionLimit)
      let (items, k) ← readItems (j + 1) (depth - 1) true [] fuel
      return (.arr items, k)
    else if b == 123 then
      if depth ≤ 1 then throw (peekFault bs j .recursionLimit)
      let (fields, k) ← readFields (j + 1) (depth - 1) true [] fuel
      return (Json.object fields, k)
    else throw (peekFault bs j .expectedValue)
termination_by structural fuel => fuel

def readItems (i : Nat) (depth : Nat) (first : Bool) (acc : List Json) :
    (fuel : Nat) → Except JsonError ((List Json) × Nat)
  | 0 => .error (fault bs bs.size .eofList)
  | fuel + 1 => do
    let j := skipBlank bs i
    let some b := bs[j]? | throw (peekFault bs j .eofList)
    if b == 93 then return (acc.reverse, j + 1)
    let start ←
      if first then pure j
      else if b == 44 then
        let k := skipBlank bs (j + 1)
        match byte? bs (k) with
        | some 93 => throw (peekFault bs k .trailingComma)
        | some _ => pure k
        | none => throw (peekFault bs k .eofValue)
      else throw (peekFault bs j .expectedListCommaOrEnd)
    let (v, k) ← readValueAt start depth fuel
    readItems k depth false (v :: acc) fuel
termination_by structural fuel => fuel

def readFields (i : Nat) (depth : Nat) (first : Bool) (acc : List (String × Json)) :
    (fuel : Nat) → Except JsonError ((List (String × Json)) × Nat)
  | 0 => .error (fault bs bs.size .eofObject)
  | fuel + 1 => do
    let j := skipBlank bs i
    let some b := bs[j]? | throw (peekFault bs j .eofObject)
    if b == 125 then return (acc.reverse, j + 1)
    let start ←
      if first then pure j
      else if b == 44 then pure (skipBlank bs (j + 1))
      else throw (peekFault bs j .expectedObjectCommaOrEnd)
    match byte? bs (start) with
    | some 34 =>
      let (key, k) ← readString bs (start + 1)
      let c := skipBlank bs k
      match byte? bs (c) with
      | some 58 =>
        let (v, n) ← readValueAt (c + 1) depth fuel
        readFields n depth false ((key, v) :: acc) fuel
      | some _ => throw (peekFault bs c .expectedColon)
      | none => throw (peekFault bs c .eofObject)
    | some 125 => throw (peekFault bs start .trailingComma)
    | some _ => throw (peekFault bs start .keyMustBeString)
    | none => throw (peekFault bs start .eofValue)
termination_by structural fuel => fuel
end

def finish (i : Nat) : Except JsonError Unit :=
  let j := skipBlank bs i
  if j < bs.size then .error (peekFault bs j .trailingCharacters) else .ok ()

end

/-- Reads a whole JSON text as one value. -/
def parse (text : String) : Except String Json :=
  let bs := text.toUTF8
  match (do
    let (v, i) ← readValueAt bs 0 128 (2 * bs.size + 2)
    finish bs i
    return v) with
  | .ok v => .ok v
  | .error e => .error (e.render bs)

end JsonRead

end RentalStatus
