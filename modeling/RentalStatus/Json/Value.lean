namespace RentalStatus

inductive JsonNumber where
  | nat (n : Nat)
  | neg (n : Int)
  | float (negative : Bool) (significand : Nat) (exponent : Int)
  deriving DecidableEq, Repr

/-- A JSON value. -/
inductive Json where
  | null
  | bool (b : Bool)
  | num (n : JsonNumber)
  | str (s : String)
  | arr (items : List Json)
  | obj (fields : List (String × Json))
  deriving Repr, Inhabited

namespace JsonNumber

def toInt? : JsonNumber → Option Int
  | nat n => some n
  | neg n => some n
  | float .. => none

def digitCount (n : Nat) : Nat := (toString n).length

def trimZeros (m : Nat) (e : Int) (fuel : Nat := 400) : Nat × Int :=
  match fuel with
  | 0 => (m, e)
  | fuel + 1 => if m ≠ 0 ∧ m % 10 = 0 then trimZeros (m / 10) (e + 1) fuel else (m, e)

def exponentText (k : Int) : String :=
  if k < 0 then "-" ++ toString k.natAbs else "+" ++ toString k

def floatText (negative : Bool) (significand : Nat) (exponent : Int) : String :=
  let sign := if negative then "-" else ""
  if significand = 0 then sign ++ "0.0"
  else
    let (m, k) := trimZeros significand exponent
    let digits := toString m
    let len : Int := digits.length
    let kk := len + k
    let body :=
      if 0 ≤ k ∧ kk ≤ 16 then digits ++ String.ofList (List.replicate k.toNat '0') ++ ".0"
      else if 0 < kk ∧ kk ≤ 16 then
        String.ofList (digits.toList.take kk.toNat) ++ "." ++
          String.ofList (digits.toList.drop kk.toNat)
      else if -5 < kk ∧ kk ≤ 0 then
        "0." ++ String.ofList (List.replicate (-kk).toNat '0') ++ digits
      else if digits.length = 1 then digits ++ "e" ++ exponentText (kk - 1)
      else
        String.ofList (digits.toList.take 1) ++ "." ++ String.ofList (digits.toList.drop 1) ++
          "e" ++ exponentText (kk - 1)
    sign ++ body

def render : JsonNumber → String
  | nat n => toString n
  | neg n => toString n
  | float s m e => floatText s m e

end JsonNumber

namespace Json

def hexDigit (n : Nat) : Char := "0123456789abcdef".toList.getD n '0'

def escapeChar (c : Char) : String :=
  if c = '"' then "\\\""
  else if c = '\\' then "\\\\"
  else if c = '\n' then "\\n"
  else if c = '\r' then "\\r"
  else if c = '\t' then "\\t"
  else if c.toNat = 8 then "\\b"
  else if c.toNat = 12 then "\\f"
  else if c.toNat < 0x20 then
    "\\u00" ++ String.singleton (hexDigit (c.toNat / 16)) ++ String.singleton (hexDigit (c.toNat % 16))
  else String.singleton c

def quote (s : String) : String := "\"" ++ String.join (s.toList.map escapeChar) ++ "\""

mutual
def render : Json → String
  | null => "null"
  | bool true => "true"
  | bool false => "false"
  | num n => n.render
  | str s => quote s
  | arr xs => "[" ++ renderItems xs ++ "]"
  | obj fs => "\x7b" ++ renderFields fs ++ "\x7d"

def renderItems : List Json → String
  | [] => ""
  | [x] => render x
  | x :: xs => render x ++ "," ++ renderItems xs

def renderFields : List (String × Json) → String
  | [] => ""
  | [(k, v)] => quote k ++ ":" ++ render v
  | (k, v) :: fs => quote k ++ ":" ++ render v ++ "," ++ renderFields fs
end

def insertField (k : String) (v : Json) : List (String × Json) → List (String × Json)
  | [] => [(k, v)]
  | (k', v') :: fs =>
    if k = k' then (k, v) :: fs
    else if k < k' then (k, v) :: (k', v') :: fs
    else (k', v') :: insertField k v fs

def object (fs : List (String × Json)) : Json :=
  .obj (fs.foldl (fun acc (k, v) => insertField k v acc) [])

def get? (j : Json) (k : String) : Option Json :=
  match j with
  | obj fs => (fs.find? (·.1 == k)).map (·.2)
  | _ => none

def ofInt (n : Int) : Json := if n < 0 then num (.neg n) else num (.nat n.toNat)

def ofOption (f : α → Json) : Option α → Json
  | some a => f a
  | none => null

def ofList (f : α → Json) (xs : List α) : Json := arr (xs.map f)

end Json

end RentalStatus
