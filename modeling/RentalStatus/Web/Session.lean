import RentalStatus.Json.Value
import RentalStatus.Text.Blank
import RentalStatus.Text.Utf8
import RentalStatus.Net.Url

namespace RentalStatus

namespace Session

def alphabet : List Char :=
  "ABCDEFGHIJKLMNOPQRSTUVWXYZabcdefghijklmnopqrstuvwxyz0123456789-_".toList

def digitChar (d : Nat) : Char := alphabet.getD d 'A'

def digitValue? (c : Char) : Option Nat := alphabet.idxOf? c

def encode : List Nat → List Char
  | a :: b :: c :: rest =>
    [a / 4, a % 4 * 16 + b / 16, b % 16 * 4 + c / 64, c % 64].map digitChar ++ encode rest
  | [a, b] => [a / 4, a % 4 * 16 + b / 16, b % 16 * 4].map digitChar
  | [a] => [a / 4, a % 4 * 16].map digitChar
  | [] => []

def decodeDigits : List Nat → Option (List Nat)
  | a :: b :: c :: d :: rest =>
    ([a * 4 + b / 16, b % 16 * 16 + c / 4, c % 4 * 64 + d] ++ ·) <$> decodeDigits rest
  | [a, b, c] => if c % 4 = 0 then some [a * 4 + b / 16, b % 16 * 16 + c / 4] else none
  | [a, b] => if b % 16 = 0 then some [a * 4 + b / 16] else none
  | [_] => none
  | [] => some []

def decode? (cs : List Char) : Option (List Nat) := do decodeDigits (← cs.mapM digitValue?)

def idBytes (n : Nat) : List Nat := (List.range 16).map fun i => n / Nat.pow 256 i % 256

def idText (n : Nat) : String := String.ofList (encode (idBytes n))

def idOfText? (s : String) : Option Nat := do
  let bytes ← decode? s.toList
  if bytes.length = 16 then
    some ((bytes.zip (List.range 16)).foldl (fun acc (b, i) => acc + b * Nat.pow 256 i) 0)
  else none

example : idText 1 = "AQAAAAAAAAAAAAAAAAAAAA" := by decide
example : idOfText? "AQAAAAAAAAAAAAAAAAAAAA" = some 1 := by decide

def trim (cs : List Char) : List Char :=
  ((cs.dropWhile Text.isBlank).reverse.dropWhile Text.isBlank).reverse

def percentDecoded (cs : List Char) : Option String :=
  match Utf8.decode (Url.percentDecode (Utf8.bytes (String.ofList cs))) with
  | .ok s => some s
  | .error _ => none

def pair? (piece : List Char) : Option (String × String) := do
  let name := trim (piece.takeWhile (· ≠ '='))
  let rest := piece.dropWhile (· ≠ '=')
  if rest.isEmpty || name.isEmpty then none
  let value := trim rest.tail
  return (← percentDecoded name, ← percentDecoded value)

def cookie? (headers : List String) (name : String) : Option String :=
  ((headers.flatMap (·.toList.splitOn ';')).filter (!·.all Text.isBlank)).foldl
    (fun found piece =>
      match pair? piece with
      | some (n, v) => if n = name then some v else found
      | none => found) none

end Session

/-- The sessions of the service: the value each holds for its signed-in user, by id, and the
id the next session gets. -/
structure Sessions where
  entries : List (Nat × Json) := []
  next : Nat := 1
  deriving Repr

namespace Sessions

def start (ss : Sessions) (user : Json) : Sessions × String :=
  ({ entries := ss.entries ++ [(ss.next, user)], next := ss.next + 1 },
    "id=" ++ Session.idText ss.next)

def userOf (ss : Sessions) (headers : List String) : Option Json := do
  let value ← Session.cookie? headers "id"
  let id ← Session.idOfText? value
  (ss.entries.find? (·.1 == id)).map (·.2)

end Sessions

end RentalStatus
