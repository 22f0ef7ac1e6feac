namespace RentalStatus

inductive NumeralError where
  | empty
  | invalidDigit
  | tooLarge
  | tooSmall
  deriving DecidableEq, Repr

def NumeralError.message : NumeralError → String
  | .empty => "cannot parse integer from empty string"
  | .invalidDigit => "invalid digit found in string"
  | .tooLarge => "number too large to fit in target type"
  | .tooSmall => "number too small to fit in target type"

namespace Numeral

def shift (positive : Bool) (acc d : Int) : Int := if positive then acc * 10 + d else acc * 10 - d

def digits (lo hi : Int) (positive : Bool) : List Char → Int → Except NumeralError Int
  | [], acc => .ok acc
  | c :: cs, acc =>
    if !c.isDigit then .error .invalidDigit
    else
      let v := shift positive acc (c.toNat - '0'.toNat : Nat)
      if hi < v then .error .tooLarge
      else if v < lo then .error .tooSmall
      else digits lo hi positive cs v

def read (s : String) (lo hi : Int) : Except NumeralError Int :=
  match s.toList with
  | [] => .error .empty
  | [c] => if c = '+' ∨ c = '-' then .error .invalidDigit else digits lo hi true [c] 0
  | c :: cs =>
    if c = '+' then digits lo hi true cs 0
    else if c = '-' ∧ lo < 0 then digits lo hi false cs 0
    else digits lo hi true (c :: cs) 0

def i32Min : Int := -2147483648
def i32Max : Int := 2147483647

def u64Max : Int := 18446744073709551615

/-- Reads a 32-bit signed integer. -/
def readI32 (s : String) : Except NumeralError Int := read s i32Min i32Max

def readU64 (s : String) : Except NumeralError Nat := (read s 0 u64Max).map Int.toNat

example : readI32 "+010" = .ok 10 := by rfl
example : readI32 "-2147483648" = .ok (-2147483648) := by rfl
example : readI32 "2147483648" = .error .tooLarge := by rfl
example : readU64 "-1" = .error .invalidDigit := by rfl
example : readU64 "+" = .error .invalidDigit := by rfl

theorem digits_range {lo hi : Int} {positive : Bool} {cs : List Char} {acc v : Int}
    (hacc : lo ≤ acc ∧ acc ≤ hi) (h : digits lo hi positive cs acc = .ok v) : lo ≤ v ∧ v ≤ hi := by
  induction cs generalizing acc with
  | nil => simp only [digits, Except.ok.injEq] at h; exact h ▸ hacc
  | cons c cs ih =>
    simp only [digits] at h
    split at h
    · cases h
    · split at h
      · cases h
      · split at h
        · cases h
        · exact ih ⟨by omega, by omega⟩ h

end Numeral

end RentalStatus
