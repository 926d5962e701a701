import TokenBridge.Amount
import TokenBridge.Decimal.Real
import TokenBridge.Decimal.Shortest
import TokenBridge.Dialogue.Patience
import TokenBridge.Environment.File
import TokenBridge.Identity.Text
import TokenBridge.Quota
import TokenBridge.Url

/-!
# Settings

`Settings.ofEnvironment` reads the settings of a deployment from an environment, with a
default for most of them, and checks that they make sense together. Variables are read in
a fixed order and the first one that cannot be read is the answer; the checks come after
all of them.
-/

namespace TokenBridge

structure Settings where
  network : Network
  executorUrl : String
  requestTimeout : Duration
  period : Period
  maxDecimals : UInt8
  /-- For the first word of the executor on a new transfer. -/
  status : PollSchedule
  /-- For the progress of a transfer. -/
  progress : PollSchedule
  retry : RetryPolicy
  feeRate : UInt32
  referrer : Option Address

/-- Why an environment gives no settings. -/
inductive SettingsFault where
  | file (fault : Environment.LineFault)
  | network (cause : Error)
  | missingUrl (network : Network)
  | number (name raw reason : String)
  | referrer (cause : Error)
  | url (text : String) (problem : Url.Problem)
  | noTimeout
  | noPeriod
  | decimals (got : UInt8)
  | noAttempts
  | backoffOrder
  | jitterRange
  | feeRange
  deriving DecidableEq, Repr

/-- The fault in words, followed by what caused it. -/
def SettingsFault.messages : SettingsFault → List String
  | .file fault => ["Failed to load .env file from .env", fault.message]
  | .network cause => ["EXECUTOR_NETWORK must be Mainnet, Testnet or Devnet", cause.message]
  | .missingUrl net =>
    [s!"EXECUTOR_API_URL environment variable is required for {net.name}"]
  | .number name raw reason => [s!"{name} is invalid ({raw}): {reason}"]
  | .referrer cause => ["REFERRER_ADDRESS must be a 20 or 32 byte hex address", cause.message]
  | .url text problem => [s!"executor.api_url is not a URL: {text}", problem.message]
  | .noTimeout => ["executor.request_timeout must be positive"]
  | .noPeriod => ["protocol.rate_limit_duration_secs must be positive"]
  | .decimals got =>
    [s!"protocol.max_trimmed_decimals must be between 1 and 18, got {got.toNat}"]
  | .noAttempts => ["poll attempt counts must be positive"]
  | .backoffOrder => ["retry.max_backoff cannot be below retry.initial_backoff"]
  | .jitterRange => ["retry.jitter must be between 0 and 1"]
  | .feeRange => ["referrer_fee.fee_dbps cannot exceed 65535"]

namespace Settings

open Decimal

/-! ## Variables -/

/-- A variable with blanks around its value, or its default when it is not set. -/
def variableOr {α ε : Type} (env : Environment) (name : String) (read : String → Except ε α)
    (reason : ε → String) (default : α) : Except SettingsFault α :=
  match env.get? name with
  | none => .ok default
  | some raw => (read (Text.trim raw)).mapError fun e => .number name raw (reason e)

def word (env : Environment) (name : String) (default : UInt64) : Except SettingsFault UInt64 :=
  variableOr env name Integer.parseUInt64 Integer.Fault.message default

def millis (env : Environment) (name : String) (default : UInt64) :
    Except SettingsFault Duration :=
  Duration.ofMillis <$> word env name default

def count (env : Environment) (name : String) (default : UInt32) : Except SettingsFault UInt32 :=
  variableOr env name Integer.parseUInt32 Integer.Fault.message default

def readNetwork (env : Environment) : Except SettingsFault Network :=
  match env.get? "EXECUTOR_NETWORK" with
  | none => .ok .mainnet
  | some text => (Network.ofName text).mapError .network

def readUrl (env : Environment) (network : Network) : Except SettingsFault String :=
  match env.get? "EXECUTOR_API_URL", network.executorUrl? with
  | some url, _ => .ok url
  | none, some url => .ok url
  | none, none => .error (.missingUrl network)

/-- A blank referrer is none. -/
def readReferrer (env : Environment) : Except SettingsFault (Option Address) :=
  match Text.trim ((env.get? "REFERRER_ADDRESS").getD "") with
  | "" => .ok none
  | text => (some <$> Address.ofHex text).mapError .referrer

def readRetry (env : Environment) : Except SettingsFault RetryPolicy := do
  let maxRetries ← count env "RETRY_MAX_ATTEMPTS" 5
  let initial ← millis env "RETRY_INITIAL_BACKOFF_MS" 500
  let most ← millis env "RETRY_MAX_BACKOFF_MS" 30000
  let jitter ← variableOr env "RETRY_JITTER" Real.parse Real.Fault.message 0.2
  return { maxRetries, initial, most, multiplier := 2, jitter }

def read (env : Environment) : Except SettingsFault Settings := do
  let network ← readNetwork env
  let executorUrl ← readUrl env network
  let requestTimeout ← millis env "EXECUTOR_REQUEST_TIMEOUT_MS" 10000
  let seconds ← word env "RATE_LIMIT_DURATION_SECS" Period.day.seconds
  let maxDecimals ←
    variableOr env "MAX_TRIMMED_DECIMALS" Integer.parseUInt8 Integer.Fault.message Amount.defaultCap
  let statusAttempts ← count env "STATUS_POLL_ATTEMPTS" 20
  let statusInterval ← millis env "STATUS_POLL_INTERVAL_MS" 2000
  let progressAttempts ← count env "TRACK_MAX_POLLS" 720
  let progressInterval ← millis env "TRACK_POLL_INTERVAL_MS" 5000
  let retry ← readRetry env
  let referrer ← readReferrer env
  let feeRate ← count env "REFERRER_FEE_DBPS" 0
  return {
    network, executorUrl, requestTimeout, maxDecimals, retry, feeRate, referrer
    period := ⟨seconds⟩, status := ⟨statusAttempts, statusInterval⟩
    progress := ⟨progressAttempts, progressInterval⟩ }

/-! ## Checks -/

def validate (s : Settings) : Except SettingsFault Unit := do
  (Url.check s.executorUrl).mapError (.url s.executorUrl)
  if s.requestTimeout.nanos = 0 then throw .noTimeout
  if s.period.seconds = 0 then throw .noPeriod
  if s.maxDecimals = 0 ∨ 18 < s.maxDecimals then throw (.decimals s.maxDecimals)
  if s.status.maxAttempts = 0 ∨ s.progress.maxAttempts = 0 then throw .noAttempts
  if s.retry.most.nanos < s.retry.initial.nanos then throw .backoffOrder
  if !(0 ≤ s.retry.jitter && s.retry.jitter ≤ 1) then throw .jitterRange
  if 65535 < s.feeRate then throw .feeRange

def ofEnvironment (env : Environment) : Except SettingsFault Settings := do
  let s ← read env
  s.validate
  return s

/-- An environment with the entries of a settings file, if there is one. -/
def withFile (env : Environment) (file : Option String) : Except SettingsFault Environment :=
  match file with
  | some text => (env.load text).mapError .file
  | none => .ok env

end Settings

end TokenBridge
