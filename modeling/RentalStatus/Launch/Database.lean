import RentalStatus.Net.Url
import RentalStatus.Text.Quoted

namespace RentalStatus

structure SqliteOptions where
  filename : String := ""
  inMemory : Bool := false
  readOnly : Bool := false
  create : Bool := false
  vfs : Option String := none
  deriving DecidableEq, Repr

inductive ConnectError where
  | unparsable (url : String)
  | noDriver (url : String)
  | configuration (detail : String)
  | database (code : Nat) (message : String)
  deriving DecidableEq, Repr

namespace ConnectError

def detail : ConnectError → String
  | unparsable url =>
    "Conn(Internal(" ++ Text.quoted ("The connection string '" ++ url ++ "' cannot be parsed.") ++ "))"
  | noDriver url =>
    "Conn(Internal(" ++ Text.quoted ("The connection string '" ++ url ++ "' has no supporting driver.") ++
      "))"
  | configuration d => "Conn(SqlxError(Configuration(" ++ d ++ ")))"
  | database code message =>
    "Conn(SqlxError(Database(SqliteError \x7b code: " ++ toString code ++ ", message: " ++
      Text.quoted message ++ " \x7d)))"

end ConnectError

namespace SqliteOptions

def dropPrefixes (p : String) (s : String) (fuel : Nat) : String :=
  match fuel with
  | 0 => s
  | fuel + 1 => if p.length > 0 && s.startsWith p then dropPrefixes p (s.drop p.length).toString fuel else s

def unknownValue (key value : String) : ConnectError :=
  .configuration (Text.quoted ("unknown value " ++ Text.quoted value ++ " for " ++ "\x60" ++ key ++ "\x60"))

def param (o : SqliteOptions) (key value : String) : Except ConnectError SqliteOptions :=
  if key = "mode" then
    if value = "ro" then .ok { o with readOnly := true }
    else if value = "rw" then .ok o
    else if value = "rwc" then .ok { o with create := true }
    else if value = "memory" then .ok { o with inMemory := true }
    else .error (unknownValue key value)
  else if key = "cache" then
    if value = "private" || value = "shared" then .ok o else .error (unknownValue key value)
  else if key = "immutable" then
    if ["true", "1", "false", "0"].contains value then .ok o else .error (unknownValue key value)
  else if key = "vfs" then .ok { o with vfs := some value }
  else .error (.configuration (Text.quoted ("unknown query parameter " ++ "\x60" ++ key ++ "\x60" ++
    " while parsing connection URL")))

def field (s : String) : String × String :=
  match s.splitOn "=" with
  | [] => ("", "")
  | [k] => (Url.formDecode k, "")
  | k :: v => (Url.formDecode k, Url.formDecode ("=".intercalate v))

/-- Reads the SQLite options of a database URL. -/
def ofUrl (url : String) : Except ConnectError SqliteOptions := do
  let rest := dropPrefixes "sqlite:" (dropPrefixes "sqlite://" url url.length) url.length
  let (database, query) := match rest.splitOn "?" with
    | [] => ("", none)
    | [d] => (d, none)
    | d :: q => (d, some ("?".intercalate q))
  let o : SqliteOptions ←
    if database = ":memory:" then pure { inMemory := true }
    else
      match Utf8.decode (Url.percentDecode (Utf8.bytes database)) with
      | .ok name => pure { filename := name }
      | .error e => .error (.configuration ("Utf8Error \x7b valid_up_to: " ++ toString e.validUpTo ++
          ", error_len: " ++ (match e.errorLen with
            | some n => "Some(" ++ toString n ++ ")"
            | none => "None") ++ " \x7d"))
  match query with
  | none => pure o
  | some q =>
    ((q.splitOn "&").filter (!·.isEmpty)).foldlM (fun o f => let (k, v) := field f; param o k v) o

def knownVfs : List String := ["unix", "unix-dotfile", "unix-excl", "unix-none", "memdb"]

def creatable (path : String) : Bool :=
  !path.contains '/' || (path.startsWith "/tmp/" && !(path.drop 5).toString.contains '/')

def openDatabase (o : SqliteOptions) : Except ConnectError Unit :=
  match o.vfs with
  | some v => if knownVfs.contains v then openFile o else .error (.database 1 ("no such vfs: " ++ v))
  | none => openFile o
where
  openFile (o : SqliteOptions) : Except ConnectError Unit :=
    if o.inMemory || o.filename.isEmpty then .ok ()
    else if o.create && !o.readOnly && creatable o.filename then .ok ()
    else .error (.database 14 "unable to open database file")

end SqliteOptions

/-- Opens the database of a URL. -/
def connect (url : String) : Except ConnectError SqliteOptions := do
  let some scheme := Url.scheme? url | .error (.unparsable url)
  if !scheme.startsWith "sqlite" then .error (.noDriver url)
  let o ← SqliteOptions.ofUrl url
  o.openDatabase
  return o

end RentalStatus
