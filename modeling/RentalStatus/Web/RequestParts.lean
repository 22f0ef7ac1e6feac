import RentalStatus.Web.Exchange

namespace RentalStatus

inductive BuildError where
  | emptyUri
  | invalidFormat
  | invalidUriChar
  | invalidAuthority
  | uriTooLong
  | schemeTooLong
  | invalidMethod
  | invalidHeaderValue
  deriving DecidableEq, Repr

namespace BuildError

def message : BuildError → String
  | emptyUri => "empty string"
  | invalidFormat => "invalid format"
  | invalidUriChar => "invalid uri character"
  | invalidAuthority => "invalid authority"
  | uriTooLong => "uri too long"
  | schemeTooLong => "scheme too long"
  | invalidMethod => "invalid HTTP method"
  | invalidHeaderValue => "failed to parse header value"

end BuildError

namespace RequestParts

def isTokenChar (c : Char) : Bool :=
  c.toNat < 0x80 && (c.isAlphanum || "!#$%&'*+-.^_|~".toList.contains c || c.toNat = 0x60)

def method (m : String) : Except BuildError Unit :=
  if !m.isEmpty && m.toList.all isTokenChar then .ok () else .error .invalidMethod

def headerValue (v : String) : Except BuildError Unit :=
  if v.toList.all fun c => c = '\t' || (0x20 ≤ c.toNat && c.toNat ≠ 0x7F) then .ok ()
  else .error .invalidHeaderValue

def inPath (c : Char) : Bool :=
  let n := c.toNat
  n = 0x21 || n = 0x22 || (0x24 ≤ n && n ≤ 0x3B) || n = 0x3D || (0x40 ≤ n && n ≤ 0x5F) ||
    (0x61 ≤ n && n ≤ 0x7D) || n = 0x7E || 0x7F ≤ n

def inQuery (c : Char) : Bool :=
  let n := c.toNat
  n = 0x21 || (0x24 ≤ n && n ≤ 0x3B) || n = 0x3D || (0x3F ≤ n && n ≤ 0x7E) || 0x7F ≤ n

def query : List Char → Except BuildError Unit
  | [] => .ok ()
  | c :: cs => if c = '#' then .ok () else if inQuery c then query cs else .error .invalidUriChar

def pathOf : List Char → Except BuildError (List Char)
  | [] => .ok []
  | c :: cs =>
    if c = '?' then do query cs; return []
    else if c = '#' then .ok []
    else if inPath c then (c :: ·) <$> pathOf cs
    else .error .invalidUriChar

def inAuthority (c : Char) : Bool :=
  c.toNat < 0x80 && (c.isAlphanum || "!$&'()*+,-.:;=@[]_~".toList.contains c)

structure AuthorityScan where
  colons : Nat := 0
  opened : Bool := false
  closed : Bool := false
  percent : Bool := false
  endsInAt : Bool := false

def authorityLength (st : AuthorityScan) (n : Nat) : List Char → Except BuildError Nat
  | [] => finish st n
  | c :: cs =>
    if c = '/' || c = '?' || c = '#' then finish st n
    else if c = ':' then
      if 8 ≤ st.colons then .error .invalidAuthority
      else authorityLength { st with colons := st.colons + 1, endsInAt := false } (n + 1) cs
    else if c = '[' then
      if st.percent || st.opened then .error .invalidAuthority
      else authorityLength { st with opened := true, endsInAt := false } (n + 1) cs
    else if c = ']' then
      if !st.opened || st.closed then .error .invalidAuthority
      else
        authorityLength { st with closed := true, colons := 0, percent := false, endsInAt := false }
          (n + 1) cs
    else if c = '@' then
      authorityLength { st with colons := 0, percent := false, endsInAt := true } (n + 1) cs
    else if c = '%' then authorityLength { st with percent := true, endsInAt := false } (n + 1) cs
    else if inAuthority c then authorityLength { st with endsInAt := false } (n + 1) cs
    else .error .invalidUriChar
where
  finish (st : AuthorityScan) (n : Nat) : Except BuildError Nat :=
    if st.opened != st.closed || 1 < st.colons || (0 < n && st.endsInAt) || st.percent then
      .error .invalidAuthority
    else .ok n

def inScheme (c : Char) : Bool := c.toNat < 0x80 && (c.isAlphanum || c = '+' || c = '-' || c = '.')

def schemeLength (cs : List Char) : Except BuildError (Option Nat) :=
  if cs.length ≤ 3 then .ok none
  else
    let name := cs.takeWhile inScheme
    match cs.drop name.length with
    | ':' :: '/' :: '/' :: _ => if 64 < name.length then .error .schemeTooLong else .ok (some name.length)
    | _ => .ok none

def startsWithFolded (cs : List Char) (pre : String) : Bool :=
  cs.length ≥ pre.length && (cs.take pre.length).map Char.toLower == pre.toList

def fullPath (cs : List Char) : Except BuildError (List Char) := do
  let rest ←
    if startsWithFolded cs "http://" then pure (some (cs.drop 7))
    else if startsWithFolded cs "https://" then pure (some (cs.drop 8))
    else (·.map fun n => cs.drop (n + 3)) <$> schemeLength cs
  match rest with
  | none =>
    let n ← authorityLength {} 0 cs
    if n ≠ cs.length then .error .invalidFormat else .ok []
  | some rest =>
    let n ← authorityLength {} 0 rest
    if n = 0 then .error .invalidFormat
    else
      let path ← pathOf (rest.drop n)
      return if path.isEmpty then ['/'] else path

def targetPath (t : String) : Except BuildError String :=
  if 65534 < t.utf8ByteSize then .error .uriTooLong
  else
    String.ofList <$> match t.toList with
    | [] => .error .emptyUri
    | ['/'] => .ok ['/']
    | ['*'] => .ok ['*']
    | [c] => do
      let n ← authorityLength {} 0 [c]
      if n ≠ 1 then .error .invalidUriChar else .ok []
    | cs@('/' :: _) => pathOf cs
    | cs => fullPath cs

/-- Builds a request from its parts, checking the method, the target, the content type and the
cookies in that order. -/
def build (method target : String) (contentType : Option String) (cookies : List String)
    (body : String) : Except BuildError Request := do
  RequestParts.method method
  let path ← targetPath target
  contentType.forM headerValue
  cookies.forM headerValue
  return { method, path, contentType, body, cookies }

example : (targetPath "/api/x?a=1#f").toOption = some "/api/x" := by decide
example : (targetPath "http://h/api").toOption = some "/api" := by decide
example : (targetPath "api/x").toOption = none := by decide

end RequestParts

end RentalStatus
