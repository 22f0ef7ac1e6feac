namespace RentalStatus

/-- A non-negative finite double `mantissa · 2^exponent`: either normal, with
`2^52 ≤ mantissa < 2^53` and `-1074 ≤ exponent ≤ 971`, or zero or subnormal, with
`mantissa < 2^52` and `exponent = -1074`. -/
structure Binary64 where
  mantissa : Nat
  exponent : Int
  deriving DecidableEq, Repr

namespace Binary64

def minExponent : Int := -1074

def maxExponent : Int := 971

def hidden : Nat := Nat.pow 2 52

def limit : Nat := Nat.pow 2 53

def zero : Binary64 := ⟨0, minExponent⟩

def two (k : Int) : Nat := Nat.pow 2 k.toNat

def ten (k : Int) : Nat := Nat.pow 10 k.toNat

def atLeast (num den : Nat) (t : Int) : Bool :=
  if 0 ≤ t then decide (num ≥ den * two t) else decide (num * two (-t) ≥ den)

def floorLog2 (num den : Nat) : Int :=
  let t : Int := (Nat.log2 num : Int) - (Nat.log2 den : Int)
  if atLeast num den t then t else t - 1

def round (num den : Nat) : Option Binary64 :=
  if num = 0 ∨ den = 0 then some zero
  else
    let e := max minExponent (floorLog2 num den - 52)
    let (n, d) := if 0 ≤ e then (num, den * two e) else (num * two (-e), den)
    let q := n / d
    let r := n % d
    let q := if 2 * r > d ∨ (2 * r = d ∧ q % 2 = 1) then q + 1 else q
    let (q, e) := if q = limit then (hidden, e + 1) else (q, e)
    if e > maxExponent then none else some ⟨q, e⟩

def ofNat (n : Nat) : Binary64 := (round n 1).getD zero

def fraction (a : Binary64) : Nat × Nat :=
  if 0 ≤ a.exponent then (a.mantissa * two a.exponent, 1) else (a.mantissa, two (-a.exponent))

def mul (a b : Binary64) : Option Binary64 :=
  let (n₁, d₁) := a.fraction
  let (n₂, d₂) := b.fraction
  round (n₁ * n₂) (d₁ * d₂)

def div (a b : Binary64) : Option Binary64 :=
  let (n₁, d₁) := a.fraction
  let (n₂, d₂) := b.fraction
  round (n₁ * d₂) (d₁ * n₂)

def pow10 (k : Nat) : Binary64 := ofNat (Nat.pow 10 k)

def scale (f : Binary64) (e : Int) : (fuel : Nat) → Option Binary64
  | 0 => some f
  | fuel + 1 =>
    if e.natAbs ≤ 308 then
      if 0 ≤ e then mul f (pow10 e.toNat) else div f (pow10 e.natAbs)
    else if f.mantissa = 0 then some f
    else if 0 ≤ e then none
    else (div f (pow10 308)).bind fun g => scale g (e + 308) fuel

def ofDecimal (significand : Nat) (exponent : Int) : Option Binary64 :=
  scale (ofNat significand) exponent 8

def interval (a : Binary64) : Nat × Nat × Nat × Nat × Bool :=
  let m := a.mantissa
  let lower := if m = hidden then 4 * m - 1 else 4 * m - 2
  let closed := if m < hidden then true else m % 2 = 0
  let e := a.exponent - 2
  if 0 ≤ e then (lower * two e, 4 * m * two e, (4 * m + 2) * two e, 1, closed)
  else (lower, 4 * m, 4 * m + 2, two (-e), closed)

def shortestFrom (l v h q : Nat) (closed : Bool) (j : Int) : (fuel : Nat) → Nat × Int
  | 0 => (v / q, 0)
  | fuel + 1 =>
    let (l', v', h', u) :=
      if 0 ≤ j then (l, v, h, q * ten j) else (l * ten (-j), v * ten (-j), h * ten (-j), q)
    let t := v' / u
    let down := if closed then decide (t * u ≥ l') else decide (t * u > l')
    let up := if closed then decide ((t + 1) * u ≤ h') else decide ((t + 1) * u < h')
    if down && up then (if 2 * (v' - t * u) ≥ u then (t + 1, j) else (t, j))
    else if down then (t, j)
    else if up then (t + 1, j)
    else shortestFrom l v h q closed (j - 1) fuel

/-- The shortest decimal naming a double, as digits and a power of ten; zero is `(0, 0)`.
The search starts at a power of ten above the interval, two past an estimate from the bit
lengths, and a double has at most 17 significant digits. -/
def shortest (a : Binary64) : Nat × Int :=
  if a.mantissa = 0 then (0, 0)
  else
    let (l, v, h, q, closed) := interval a
    let bits : Int := (Nat.log2 h : Int) + 1 - (Nat.log2 q : Int)
    shortestFrom l v h q closed (bits * 30103 / 100000 + 2) 40

example : (ofNat 18446744073709551615).shortest = (18446744073709552, 3) := by decide
example : ((ofDecimal 1 (-1)).map shortest) = some (1, -1) := by decide

end Binary64

end RentalStatus
