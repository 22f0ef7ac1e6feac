import RentalStatus.Guard
import RentalStatus.Net.SocketAddr
import RentalStatus.Text.Numeral
import RentalStatus.Text.Quoted

namespace RentalStatus

/-- The settings of the service. -/
structure Config where
  databaseUrl : String
  bindAddress : SocketAddr
  policy : Policy
  /-- The cron schedule of the overdue sweep; none when the sweep is off. -/
  sweepSchedule : Option String
  requestTimeoutSecs : Nat
  deriving DecidableEq, Repr

/-- Why the settings could not be read. -/
inductive ConfigError where
  | missingEnvVar (name : String)
  | invalidEnvVar (name value reason : String)
  deriving DecidableEq, Repr

namespace ConfigError

def message : ConfigError → String
  | missingEnvVar name => "Missing required environment variable: " ++ name
  | invalidEnvVar name value reason =>
    "Invalid value '" ++ value ++ "' for environment variable " ++ name ++ ": " ++ reason

def cause : ConfigError → String
  | missingEnvVar _ => "MissingEnvVar"
  | invalidEnvVar .. => "InvalidEnvVar"

def detail : ConfigError → String
  | missingEnvVar name => "MissingEnvVar(" ++ Text.quoted name ++ ")"
  | invalidEnvVar name value reason =>
    "InvalidEnvVar \x7b name: " ++ Text.quoted name ++ ", value: " ++ Text.quoted value ++
      ", reason: " ++ Text.quoted reason ++ " \x7d"

end ConfigError

namespace Config

def defaultBind : String := "0.0.0.0:8080"

def defaultSchedule : String := "0 */5 * * * *"

def defaultTimeout : Nat := 30

def readVar (name value : String) (read : String → Except String α) : Except ConfigError α :=
  match read value with
  | .ok a => .ok a
  | .error reason => .error (.invalidEnvVar name value reason)

def readAddress (s : String) : Except String SocketAddr :=
  match SocketAddr.read? s with
  | some a => .ok a
  | none => .error "invalid socket address syntax"

def readTimeout (s : String) : Except String Nat :=
  match Numeral.readU64 s with
  | .ok 0 => .error "must be greater than zero"
  | .ok n => .ok n
  | .error e => .error e.message

/-- Reads the settings from named variables. -/
def ofLookup (lookup : String → Option String) : Except ConfigError Config := do
  let some databaseUrl := lookup "DATABASE_URL" | .error (.missingEnvVar "DATABASE_URL")
  let bindAddress ← readVar "BIND_ADDRESS" ((lookup "BIND_ADDRESS").getD defaultBind) readAddress
  let policy ← match lookup "STATUS_TRANSITION_POLICY" with
    | some v => readVar "STATUS_TRANSITION_POLICY" v Policy.ofName
    | none => pure .strict
  let sweepSchedule := match lookup "OVERDUE_SWEEP_SCHEDULE" with
    | some "off" => none
    | some v => some v
    | none => some defaultSchedule
  let requestTimeoutSecs ← match lookup "REQUEST_TIMEOUT_SECS" with
    | some v => readVar "REQUEST_TIMEOUT_SECS" v readTimeout
    | none => pure defaultTimeout
  return { databaseUrl, bindAddress, policy, sweepSchedule, requestTimeoutSecs }

end Config

end RentalStatus
