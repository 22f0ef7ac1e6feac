import RentalStatus.Config
import RentalStatus.Launch.Database
import RentalStatus.Schedule

namespace RentalStatus

/-- Why the service could not start. -/
inductive LaunchError where
  | config (e : ConfigError)
  | connect (e : ConnectError)
  | migrate (code : Nat) (message : String)
  | schedule
  | bind (code : Nat) (kind message : String)
  deriving DecidableEq, Repr

namespace LaunchError

def detail : LaunchError → String
  | config e => "ConfigErr(" ++ e.detail ++ ")"
  | connect e => "DbErr(" ++ e.detail ++ ")"
  | migrate code message =>
    "DbErr(Exec(SqlxError(Database(SqliteError \x7b code: " ++ toString code ++ ", message: " ++
      Text.quoted message ++ " \x7d))))"
  | schedule => "SchedulerErr(ParseSchedule)"
  | bind code kind message =>
    "IoErr(Os \x7b code: " ++ toString code ++ ", kind: " ++ kind ++ ", message: " ++
      Text.quoted message ++ " \x7d)"

def report (e : LaunchError) : String := "Error: " ++ e.detail ++ "\n"

end LaunchError

namespace SocketAddr

def isHostV6 (ip : Ipv6Addr) : Bool :=
  match ip.groups with
  | [0, 0, 0, 0, 0, 0, 0, 0] | [0, 0, 0, 0, 0, 0, 0, 1] | [0, 0, 0, 0, 0, 65535, _, _] => true
  | _ => false

def bind (a : SocketAddr) : Except LaunchError Unit :=
  if 0 < a.portOf ∧ a.portOf < 1024 then .error (.bind 13 "PermissionDenied" "Permission denied")
  else
    match a with
    | .v6 ip _ _ =>
      if isHostV6 ip then .ok ()
      else .error (.bind 99 "AddrNotAvailable" "Cannot assign requested address")
    | .v4 .. => .ok ()

end SocketAddr

/-- Starts the service with the given variables; the settings it serves with, or why it
stopped. -/
def launch (lookup : String → Option String) : Except LaunchError Config := do
  let config ← (Config.ofLookup lookup).mapError .config
  let db ← (connect config.databaseUrl).mapError .connect
  if db.readOnly then .error (.migrate 8 "attempt to write a readonly database")
  if let some s := config.sweepSchedule then
    if (Schedule.parse? s).isNone then .error .schedule
  config.bindAddress.bind
  return config

end RentalStatus
