import TokenBridge.Relay.StatusQuery

/-!
# Command line

Prints what the executor reports about the transaction `TX_HASH` on `SOURCE_CHAIN`. The
settings come from the environment and from a file `.env` in the current directory. The
command has no network stack of its own, so `carry` finds every server out of reach.
-/

namespace TokenBridge.Main

/-- The variables that the command looks at. -/
def variableNames : List String :=
  ["EXECUTOR_NETWORK", "EXECUTOR_API_URL", "EXECUTOR_REQUEST_TIMEOUT_MS",
    "RATE_LIMIT_DURATION_SECS", "MAX_TRIMMED_DECIMALS", "STATUS_POLL_ATTEMPTS",
    "STATUS_POLL_INTERVAL_MS", "TRACK_MAX_POLLS", "TRACK_POLL_INTERVAL_MS",
    "RETRY_MAX_ATTEMPTS", "RETRY_INITIAL_BACKOFF_MS", "RETRY_MAX_BACKOFF_MS", "RETRY_JITTER",
    "REFERRER_FEE_DBPS", "REFERRER_ADDRESS", "TX_HASH", "SOURCE_CHAIN"]

def settingsFile : IO (Option String) := do
  try return some (← IO.FS.readFile ".env") catch _ => return none

/-- The variables that the command and its settings file look at. -/
def environment (file : Option String) : IO Environment := do
  let mut env : Environment := .empty
  for name in variableNames ++ Environment.mentioned (file.getD "").toList do
    if let some value ← IO.getEnv name then env := env.set name value
  return env

def carry (_ : Client.Request) : IO Client.Outcome := return .error .unreachable

/-- Draws are spread evenly over this many steps between the ends of a range. -/
def drawSteps : Nat := 9007199254740992

def rests (p : Pause) : IO Unit := do
  let share := (← IO.rand 0 drawSteps).toFloat / drawSteps.toFloat
  match p.duration? fun low high => low + share * (high - low) with
  | some d => IO.sleep (UInt32.ofNat (min d.millis (UInt32.size - 1)))
  | none => throw (IO.userError "a pause has no length")

/-- Prints a fault and its causes. -/
def complain (messages : List String) : IO UInt32 := do
  for message in messages do IO.eprintln message
  return 1

end TokenBridge.Main

open TokenBridge in
def main : IO UInt32 := do
  let file ← Main.settingsFile
  match StatusQuery.ofEnvironment (← Main.environment file) file with
  | .error messages => Main.complain messages
  | .ok query =>
    match ← query.ask.run.interpret Main.carry Main.rests with
    | .error e => Main.complain (query.complain e)
    | .ok reports =>
      IO.print (StatusQuery.render reports)
      return 0
