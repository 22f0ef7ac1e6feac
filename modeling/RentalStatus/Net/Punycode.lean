namespace RentalStatus

namespace Punycode

def base : Nat := 36

def wordMax : Nat := 4294967295

def digitValue? (c : Char) : Option Nat :=
  if 'a' ≤ c ∧ c ≤ 'z' then some (c.toNat - 'a'.toNat)
  else if 'A' ≤ c ∧ c ≤ 'Z' then some (c.toNat - 'A'.toNat)
  else if c.isDigit then some (c.toNat - '0'.toNat + 26)
  else none

def threshold (k bias : Nat) : Nat :=
  if k ≤ bias then 1 else if bias + 26 ≤ k then 26 else k - bias

def shrink (delta k : Nat) : (fuel : Nat) → Nat × Nat
  | 0 => (delta, k)
  | fuel + 1 => if 455 < delta then shrink (delta / 35) (k + 36) fuel else (delta, k)

def adapt (delta points : Nat) (first : Bool) : Nat :=
  let d := if first then delta / 700 else delta / 2
  let d := d + d / points
  let (d, k) := shrink d 0 8
  k + 36 * d / (d + 38)

def readInteger (bias : Nat) : List Char → (k w i : Nat) → Option (Nat × List Char)
  | [], _, _, _ => none
  | c :: rest, k, w, i => do
    let d ← digitValue? c
    let i := i + d * w
    if wordMax < d * w ∨ wordMax < i then none
    let t := threshold k bias
    if d < t then some (i, rest)
    else
      let w := w * (base - t)
      if wordMax < w then none
      readInteger bias rest (k + base) w i

def isScalar (n : Nat) : Bool := n < 0xD800 || (0xDFFF < n && n < 0x110000)

def placeAll (bias n i : Nat) (out : List Char) : List Char → (fuel : Nat) → Option (List Char)
  | [], _ => some out
  | _ :: _, 0 => none
  | text@(_ :: _), fuel + 1 => do
    let (i', rest) ← readInteger bias text base 1 i
    let points := out.length + 1
    let n' := n + i' / points
    if wordMax < n' ∨ !isScalar n' then none
    let pos := i' % points
    placeAll (adapt (i' - i) points (i == 0)) n' (pos + 1) (out.insertIdx pos (Char.ofNat n'))
      rest fuel

def splitLabel (cs : List Char) : List Char × List Char :=
  match cs.reverse.span (· ≠ '-') with
  | (_, []) => ([], cs)
  | (after, _ :: before) => if before.isEmpty then ([], cs) else (before.reverse, after.reverse)

/-- The Unicode label an ASCII label (without its `xn--` prefix) stands for, or none when it
cannot be read. -/
def decode (cs : List Char) : Option (List Char) :=
  let (basic, ext) := splitLabel cs
  if basic.any (·.toNat ≥ 0x80) then none
  else placeAll 72 128 0 basic ext ext.length

example : decode "bcher-kva".toList = some "bücher".toList := by decide
example : decode "zz".toList = none := by decide

end Punycode

end RentalStatus
