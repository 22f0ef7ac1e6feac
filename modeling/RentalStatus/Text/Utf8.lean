namespace RentalStatus

structure Utf8Error where
  validUpTo : Nat
  errorLen : Option Nat
  deriving DecidableEq, Repr

namespace Utf8

def cont (b : UInt8) : Bool := 0x80 ≤ b && b ≤ 0xBF

def secondRange (lead : UInt8) : UInt8 × UInt8 :=
  if lead = 0xE0 then (0xA0, 0xBF)
  else if lead = 0xED then (0x80, 0x9F)
  else if lead = 0xF0 then (0x90, 0xBF)
  else if lead = 0xF4 then (0x80, 0x8F)
  else (0x80, 0xBF)

def first : List UInt8 → Except (Option Nat) (Char × Nat)
  | [] => .error none
  | b :: rest =>
    let n := b.toNat
    if n < 0x80 then .ok (Char.ofNat n, 1)
    else if 0xC2 ≤ n ∧ n ≤ 0xDF then
      match rest with
      | [] => .error none
      | c :: _ => if cont c then .ok (Char.ofNat ((n % 32) * 64 + c.toNat % 64), 2) else .error (some 1)
    else if 0xE0 ≤ n ∧ n ≤ 0xF4 then
      let width := if n ≤ 0xEF then 3 else 4
      let (lo, hi) := secondRange b
      match rest with
      | [] => .error none
      | c :: rest =>
        if !(lo ≤ c && c ≤ hi) then .error (some 1)
        else
          match rest with
          | [] => .error none
          | d :: rest =>
            if !cont d then .error (some 2)
            else if width = 3 then
              .ok (Char.ofNat ((n % 16) * 4096 + (c.toNat % 64) * 64 + d.toNat % 64), 3)
            else
              match rest with
              | [] => .error none
              | e :: _ =>
                if !cont e then .error (some 3)
                else .ok (Char.ofNat ((n % 8) * 262144 + (c.toNat % 64) * 4096 +
                  (d.toNat % 64) * 64 + e.toNat % 64), 4)
    else .error (some 1)

def decodeFrom (done : Nat) (acc : List Char) (bs : List UInt8) : Except Utf8Error String :=
  if _hb : bs = [] then .ok (String.ofList acc.reverse)
  else
    match first bs with
    | .ok (c, k) =>
      if _h : 0 < k then decodeFrom (done + k) (c :: acc) (bs.drop k)
      else .ok (String.ofList acc.reverse)
    | .error len => .error ⟨done, len⟩
termination_by bs.length
decreasing_by
  have : bs.length ≠ 0 := fun h0 => _hb (List.eq_nil_of_length_eq_zero h0)
  simp only [List.length_drop]; omega

/-- Decodes bytes as UTF-8. -/
def decode (bs : List UInt8) : Except Utf8Error String := decodeFrom 0 [] bs

def decodeLossyFrom (acc : List Char) (bs : List UInt8) : String :=
  if _hb : bs = [] then String.ofList acc.reverse
  else
    let (c, k) := match first bs with
      | .ok r => r
      | .error (some len) => ('�', len)
      | .error none => ('�', bs.length)
    if _h : 0 < k then decodeLossyFrom (c :: acc) (bs.drop k)
    else String.ofList acc.reverse
termination_by bs.length
decreasing_by
  have : bs.length ≠ 0 := fun h0 => _hb (List.eq_nil_of_length_eq_zero h0)
  simp only [List.length_drop]; omega

def decodeLossy (bs : List UInt8) : String := decodeLossyFrom [] bs

def bytes (s : String) : List UInt8 := s.toUTF8.toList

end Utf8

theorem ByteArray.toList_loop (b : ByteArray) (i : Nat) (r : List UInt8) :
    ByteArray.toList.loop b i r = r.reverse ++ b.data.toList.drop i := by
  fun_induction ByteArray.toList.loop b i r with
  | case1 i r hi ih =>
    rw [ih]
    have hi' : i < b.data.toList.length := by simpa using hi
    rw [List.drop_eq_getElem_cons hi']
    simp [ByteArray.get!, hi]
  | case2 i r hi =>
    have hi' : b.data.toList.length ≤ i := by simpa using hi
    simp [List.drop_eq_nil_of_le hi']

theorem Utf8.bytes_eq (s : String) : Utf8.bytes s = s.toList.flatMap String.utf8EncodeChar := by
  rw [Utf8.bytes, String.toUTF8_eq_toByteArray, ← String.utf8Encode_toList, ByteArray.toList,
    ByteArray.toList_loop, List.utf8Encode, List.toList_data_toByteArray]
  simp

end RentalStatus
