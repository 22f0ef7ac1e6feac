namespace RentalStatus

structure Ipv4Addr where
  octets : List Nat
  deriving DecidableEq, Repr

structure Ipv6Addr where
  groups : List Nat
  deriving DecidableEq, Repr

/-- An address with a port; an IPv6 one may carry a scope. -/
inductive SocketAddr where
  | v4 (ip : Ipv4Addr) (port : Nat)
  | v6 (ip : Ipv6Addr) (port : Nat) (scope : Nat)
  deriving DecidableEq, Repr

namespace SocketAddr

def digitValue (radix : Nat) (c : Char) : Option Nat :=
  let v := if c.isDigit then some (c.toNat - '0'.toNat)
    else if 'a' ≤ c ∧ c ≤ 'f' then some (c.toNat - 'a'.toNat + 10)
    else if 'A' ≤ c ∧ c ≤ 'F' then some (c.toNat - 'A'.toNat + 10)
    else none
  v.filter (· < radix)

def number (radix : Nat) (maxDigits : Option Nat) (zeroPrefix : Bool) (bound : Nat)
    (cs : List Char) : Option (Nat × List Char) :=
  let ds := cs.takeWhile fun c => (digitValue radix c).isSome
  let rest := cs.drop ds.length
  let tooMany := match maxDigits with
    | some m => m < ds.length
    | none => false
  let value := ds.foldl (fun acc c => acc * radix + (digitValue radix c).getD 0) 0
  -- a value over the bound fails at the digit that passes it, so also any longer run
  if ds.isEmpty || tooMany || bound < value then none
  else if !zeroPrefix && ds.head? = some '0' && 1 < ds.length then none
  else some (value, rest)

def char (c : Char) : List Char → Option (List Char)
  | d :: cs => if c = d then some cs else none
  | [] => none

def ipv4 (cs : List Char) : Option (Ipv4Addr × List Char) := do
  let (a, cs) ← number 10 (some 3) false 255 cs
  let (b, cs) ← number 10 (some 3) false 255 (← char '.' cs)
  let (c, cs) ← number 10 (some 3) false 255 (← char '.' cs)
  let (d, cs) ← number 10 (some 3) false 255 (← char '.' cs)
  return (⟨[a, b, c, d]⟩, cs)

def groups : Nat → Nat → List Char → List Nat × Bool × List Char
  | 0, _, cs => ([], false, cs)
  | left + 1, i, cs =>
    let sep := if i = 0 then some cs else char ':' cs
    let embedded := if 0 < left then sep.bind ipv4 else none
    match embedded with
    | some (quad, rest) =>
      match quad.octets with
      | [a, b, c, d] => ([a * 256 + b, c * 256 + d], true, rest)
      | _ => ([], false, cs)
    | none =>
      match sep.bind (number 16 (some 4) true 65535) with
      | some (g, rest) =>
        let (gs, ended, rest) := groups left (i + 1) rest
        (g :: gs, ended, rest)
      | none => ([], false, cs)

def ipv6 (cs : List Char) : Option (Ipv6Addr × List Char) :=
  let (head, headV4, rest) := groups 8 0 cs
  if head.length = 8 then some (⟨head⟩, rest)
  else if headV4 then none
  else do
    let rest ← char ':' rest
    let rest ← char ':' rest
    let (tail, _, rest) := groups (8 - (head.length + 1)) 0 rest
    some (⟨head ++ List.replicate (8 - head.length - tail.length) 0 ++ tail⟩, rest)

def port (cs : List Char) : Option (Nat × List Char) :=
  (char ':' cs).bind (number 10 none true 65535)

/-- Reads a socket address; the whole text must be one. -/
def read? (s : String) : Option SocketAddr :=
  let cs := s.toList
  let asV4 : Option (SocketAddr × List Char) := do
    let (ip, cs) ← ipv4 cs
    let (p, cs) ← port cs
    return (.v4 ip p, cs)
  let asV6 : Option (SocketAddr × List Char) := do
    let cs ← char '[' cs
    let (ip, cs) ← ipv6 cs
    let (scope, cs) := ((char '%' cs).bind (number 10 none true 4294967295)).getD (0, cs)
    let cs ← char ']' cs
    let (p, cs) ← port cs
    return (.v6 ip p scope, cs)
  match asV4 with
  | some (a, []) => some a
  | some _ => none
  | none =>
    match asV6 with
    | some (a, []) => some a
    | _ => none

def hex (n : Nat) : String := String.ofList (Nat.toDigits 16 n)

def joinGroups (gs : List Nat) : String := ":".intercalate (gs.map hex)

def zeroRun (gs : List Nat) : Nat × Nat :=
  let step := fun (st : (Nat × Nat) × (Nat × Nat) × Nat) (g : Nat) =>
    let (best, cur, i) := st
    let cur := if g = 0 then (if cur.2 = 0 then (i, 1) else (cur.1, cur.2 + 1)) else (0, 0)
    let best := if best.2 < cur.2 then cur else best
    (best, cur, i + 1)
  (gs.foldl step ((0, 0), (0, 0), 0)).1

end SocketAddr

def Ipv4Addr.render (a : Ipv4Addr) : String := ".".intercalate (a.octets.map toString)

def Ipv6Addr.render (a : Ipv6Addr) : String :=
  match a.groups with
  | [0, 0, 0, 0, 0, 65535, hi, lo] =>
    "::ffff:" ++ Ipv4Addr.render ⟨[hi / 256, hi % 256, lo / 256, lo % 256]⟩
  | gs =>
    let (start, len) := SocketAddr.zeroRun gs
    if 1 < len then
      SocketAddr.joinGroups (gs.take start) ++ "::" ++ SocketAddr.joinGroups (gs.drop (start + len))
    else SocketAddr.joinGroups gs

namespace SocketAddr

def render : SocketAddr → String
  | .v4 ip p => ip.render ++ ":" ++ toString p
  | .v6 ip p scope =>
    "[" ++ ip.render ++ (if scope = 0 then "" else "%" ++ toString scope) ++ "]:" ++ toString p

def portOf : SocketAddr → Nat
  | .v4 _ p => p
  | .v6 _ p _ => p

def defaultBind : SocketAddr := .v4 ⟨[0, 0, 0, 0]⟩ 8080

end SocketAddr

end RentalStatus
