import RentalStatus.Console
import RentalStatus.Launch

open RentalStatus

def settingNames : List String :=
  ["DATABASE_URL", "BIND_ADDRESS", "STATUS_TRANSITION_POLICY", "OVERDUE_SWEEP_SCHEDULE",
   "REQUEST_TIMEOUT_SECS"]

partial def answerLines (stdin stdout : IO.FS.Stream) : IO Unit := do
  let line ← stdin.getLine
  if line.isEmpty then return
  let request := line.trimAsciiEnd.toString
  if !request.isEmpty then
    stdout.putStrLn (Console.answerLine request)
    stdout.flush
  answerLines stdin stdout

def main : IO UInt32 := do
  let mut vars : List (String × String) := []
  for name in settingNames do
    if let some v ← IO.getEnv name then
      vars := vars ++ [(name, v)]
  let found := vars
  match launch (fun n => (found.find? (·.1 == n)).map (·.2)) with
  | .error e =>
    IO.eprint e.report
    return 1
  | .ok config =>
    IO.println ("Listening on " ++ config.bindAddress.render)
    answerLines (← IO.getStdin) (← IO.getStdout)
    return 0
