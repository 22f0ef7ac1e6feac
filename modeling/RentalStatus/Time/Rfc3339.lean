import RentalStatus.Time.Instant

namespace RentalStatus

namespace Rfc3339

def digits : Nat → List Char → Option (Nat × List Char)
  | 0, cs => some (0, cs)
  | n + 1, c :: cs =>
    if c.isDigit then
      (digits n cs).map fun (v, rest) => ((c.toNat - '0'.toNat) * Nat.pow 10 n + v, rest)
    else none
  | _ + 1, [] => none

def expect (c : Char) : List Char → Option (List Char)
  | d :: cs => if d = c then some cs else none
  | [] => none

def spanDigits (cs : List Char) : List Char × List Char :=
  (cs.takeWhile Char.isDigit, cs.dropWhile Char.isDigit)

def fraction (cs : List Char) : Option (Nat × List Char) :=
  let (ds, rest) := spanDigits cs
  if ds.isEmpty then none
  else
    let kept := ds.take 9
    let value := kept.foldl (fun acc c => acc * 10 + (c.toNat - '0'.toNat)) 0
    some (value * Nat.pow 10 (9 - kept.length), rest)

def maxOffset : Nat := (23 * 60 + 59) * 60

def offset (cs : List Char) : Option (Int × List Char) :=
  match cs with
  | 'Z' :: rest | 'z' :: rest => some (0, rest)
  | c :: rest =>
    let sign? : Option Int :=
      if c = '+' then some 1 else if c = '-' ∨ c = '−' then some (-1) else none
    sign?.bind fun sign => do
      let (h, rest) ← digits 2 rest
      let rest ← expect ':' rest
      let (m, rest) ← digits 2 rest
      if m < 60 ∧ h * 3600 + m * 60 ≤ maxOffset then
        some (sign * ((h * 3600 + m * 60 : Nat) : Int), rest)
      else none
  | [] => none

def read? (s : String) : Option Instant := do
  let cs := s.toList
  let (year, cs) ← digits 4 cs
  let cs ← expect '-' cs
  let (month, cs) ← digits 2 cs
  let cs ← expect '-' cs
  let (day, cs) ← digits 2 cs
  let cs ← match cs with
    | c :: rest => if c = 'T' ∨ c = 't' ∨ c = ' ' then some rest else none
    | [] => none
  let (hour, cs) ← digits 2 cs
  let cs ← expect ':' cs
  let (minute, cs) ← digits 2 cs
  let cs ← expect ':' cs
  let (sec, cs) ← digits 2 cs
  let (nanos, cs) ← match cs with
    | '.' :: rest => fraction rest
    | _ => some (0, cs)
  let (off, cs) ← offset cs
  if !cs.isEmpty then none
  let date : Date := ⟨year, month, day⟩
  if !(date.valid && hour ≤ 23 && minute ≤ 59 && sec ≤ 60) then none
  let (sec, nanos) := if sec = 60 then (59, nanos + Instant.second) else (sec, nanos)
  let wall := Instant.ofDateTime date hour minute sec nanos
  some ⟨wall.secs - off, wall.nanos⟩

def padded (width : Nat) (n : Nat) : String :=
  let s := toString n
  String.ofList (List.replicate (width - s.length) '0') ++ s

def year (y : Int) : String :=
  if 0 ≤ y ∧ y ≤ 9999 then padded 4 y.toNat
  else (if y < 0 then "-" else "+") ++ padded 4 y.natAbs

def fractionText (nanos : Nat) : String :=
  if nanos = 0 then ""
  else if nanos % 1000000 = 0 then "." ++ padded 3 (nanos / 1000000)
  else if nanos % 1000 = 0 then "." ++ padded 6 (nanos / 1000)
  else "." ++ padded 9 nanos

end Rfc3339

namespace Date

def toIso (d : Date) : String :=
  Rfc3339.year d.year ++ "-" ++ Rfc3339.padded 2 d.month ++ "-" ++ Rfc3339.padded 2 d.day

end Date

namespace Instant

/-- Reads an RFC 3339 timestamp with any offset as an instant. -/
def ofRfc3339? (s : String) : Option Instant := Rfc3339.read? s

def toRfc3339With (zone : String) (t : Instant) : String :=
  let (leap, nanos) := if second ≤ t.nanos then (1, t.nanos - second) else (0, t.nanos)
  let sod := t.secondOfDay
  t.date.toIso ++ "T" ++ Rfc3339.padded 2 (sod / 3600) ++ ":" ++
    Rfc3339.padded 2 (sod % 3600 / 60) ++ ":" ++ Rfc3339.padded 2 (sod % 60 + leap) ++
    Rfc3339.fractionText nanos ++ zone

def toRfc3339 (t : Instant) : String := t.toRfc3339With "Z"

/-- An instant as the database stores it: RFC 3339 in UTC, ending in `+00:00`. The database
orders instants by this text, which is their time order within the years 0 to 9999. -/
def storedText (t : Instant) : String := t.toRfc3339With "+00:00"

end Instant

end RentalStatus
