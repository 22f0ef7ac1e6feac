import RentalStatus.Net.SocketAddr
import RentalStatus.Text.Utf8
import RentalStatus.Net.Idna

namespace RentalStatus

namespace Url

def hexValue (b : UInt8) : Option Nat :=
  let n := b.toNat
  if 0x30 ≤ n ∧ n ≤ 0x39 then some (n - 0x30)
  else if 0x41 ≤ n ∧ n ≤ 0x46 then some (n - 0x41 + 10)
  else if 0x61 ≤ n ∧ n ≤ 0x66 then some (n - 0x61 + 10)
  else none

def percentDecode : List UInt8 → List UInt8
  | [] => []
  | b :: h :: l :: more =>
    if b = 0x25 then
      match hexValue h, hexValue l with
      | some x, some y => UInt8.ofNat (x * 16 + y) :: percentDecode more
      | _, _ => b :: percentDecode (h :: l :: more)
    else b :: percentDecode (h :: l :: more)
  | b :: rest => b :: percentDecode rest

def formDecode (s : String) : String :=
  Utf8.decodeLossy (percentDecode ((Utf8.bytes s).map fun b => if b = 0x2B then 0x20 else b))

def webSchemes : List String := ["http", "https", "ws", "wss", "ftp", "file"]

def forbiddenInHost (c : Char) : Bool :=
  c = '\x00' || c = '\t' || c = '\n' || c = '\r' || c = ' ' || c = '#' || c = '/' || c = ':' ||
    c = '<' || c = '>' || c = '?' || c = '@' || c = '[' || c = '\\' || c = ']' || c = '^' ||
    c = '|'

def ipv4Part (s : String) : Option Nat :=
  let cs := s.toList
  let (radix, ds) := match cs with
    | '0' :: 'x' :: rest | '0' :: 'X' :: rest => (16, rest)
    | '0' :: rest@(_ :: _) => (8, rest)
    | _ => (10, cs)
  if radix = 10 && ds.isEmpty then none
  else ds.foldlM (fun acc c => (SocketAddr.digitValue radix c).map (acc * radix + ·)) 0

def endsInNumber (labels : List String) : Bool :=
  match labels.getLast? with
  | none => false
  | some last =>
    (!last.isEmpty && last.toList.all Char.isDigit) || (ipv4Part last).isSome &&
      (last.startsWith "0x" || last.startsWith "0X")

def validIpv4 (labels : List String) : Bool :=
  match labels.mapM ipv4Part with
  | none => false
  | some parts =>
    0 < parts.length && parts.length ≤ 4 &&
      (parts.dropLast.all (· ≤ 255)) &&
      (parts.getLast?.all fun p => p < Nat.pow 256 (5 - parts.length))

def validDomain (host : String) : Bool :=
  match Utf8.decode (percentDecode (Utf8.bytes host)) with
  | .error _ => false
  | .ok decoded =>
    match Idna.standardName decoded.toList with
    | none => false
    | some [] => false
    | some name =>
      let labels := (String.ofList name).splitOn "."
      let labels :=
        if 1 < labels.length && labels.getLast? = some "" then labels.dropLast else labels
      if endsInNumber labels then validIpv4 labels else true

def validIpv6 (inner : String) : Bool :=
  match SocketAddr.ipv6 inner.toList with
  | some (_, []) => true
  | _ => false

/-- Whether a host is valid, for a web scheme or another one. -/
def validHost (web : Bool) (host : String) : Bool :=
  if host.startsWith "[" then
    host.endsWith "]" && validIpv6 ((host.drop 1).dropEnd 1).toString
  else if web then validDomain host
  else !(host.toList.any forbiddenInHost)

def splitPort (cs : List Char) (depth : Bool) : List Char × Option (List Char) :=
  match cs with
  | [] => ([], none)
  | c :: rest =>
    if c = ':' && !depth then ([], some rest)
    else
      let depth := if c = '[' then true else if c = ']' then false else depth
      let (h, p) := splitPort rest depth
      (c :: h, p)

def validAuthority (web : Bool) (authority : String) (atEnd : Bool) : Bool :=
  let parts := authority.splitOn "@"
  let credentials := 1 < parts.length
  let named := credentials && !(parts.length = 2 && parts.head? = some "")
  let hostPort := parts.getLast?.getD ""
  if named && hostPort.isEmpty then false
  else if credentials && !named && hostPort.isEmpty && !atEnd then false
  else
    let (host, port) := splitPort hostPort.toList false
    let host := String.ofList host
    match port with
    | some p =>
      !host.isEmpty && p.all Char.isDigit &&
        (p.isEmpty || String.toNat! (String.ofList p) ≤ 65535) && validHost web host
    | none => if web && host.isEmpty then false else validHost web host

def scheme? (text : String) : Option String :=
  let cs := text.toList.filter fun c => c ≠ '\t' && c ≠ '\n' && c ≠ '\r'
  let cs := (cs.dropWhile fun c => c.toNat ≤ 0x20).reverse.dropWhile (fun c => c.toNat ≤ 0x20)
  let cs := cs.reverse
  match cs with
  | c :: _ =>
    if !c.isAlpha then none
    else
      let name := cs.takeWhile fun c => c.isAlphanum || c = '+' || c = '-' || c = '.'
      match cs.drop name.length with
      | ':' :: rest =>
        let scheme := (String.ofList name).toLower
        let web := webSchemes.contains scheme
        let authority? : Option (List Char) :=
          if web then some (rest.dropWhile fun c => c = '/' || c = '\\')
          else match rest with
            | '/' :: '/' :: more => some more
            | _ => none
        let ends := fun (c : Char) => c = '/' || c = '?' || c = '#' || (web && c = '\\')
        match authority? with
        | none => some scheme
        | some more =>
          let authority := more.takeWhile (!ends ·)
          if validAuthority (web && scheme != "file") (String.ofList authority)
              (authority.length = more.length)
          then some scheme else
            -- a file URL may have an empty host
            if scheme = "file" && (more.takeWhile (!ends ·)).isEmpty then some scheme else none
      | _ => none
  | [] => none

end Url

end RentalStatus
