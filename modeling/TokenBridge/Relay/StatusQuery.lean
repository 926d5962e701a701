import TokenBridge.Relay.Client
import TokenBridge.Settings

/-!
# Asking for the status of a transfer

A `StatusQuery` asks the executor about one source transaction until it knows of a relay
request there. The query is read from the same environment as the settings, and `render`
writes the reports one after the other.
-/

namespace TokenBridge

structure StatusQuery where
  settings : Settings
  tx : Transaction

namespace StatusQuery

/-- A variable that has no default. -/
def required (env : Environment) (name : String) : Except (List String) String :=
  match env.get? name with
  | some value => .ok value
  | none => .error [s!"{name} is required", "environment variable not found"]

/-- The query that an environment asks for, or a fault in words followed by its causes. -/
def ofEnvironment (env : Environment) (file : Option String) :
    Except (List String) StatusQuery := do
  let env ← (Settings.withFile env file).mapError SettingsFault.messages
  let settings ← (Settings.ofEnvironment env).mapError SettingsFault.messages
  let hash ← required env "TX_HASH"
  let text ← required env "SOURCE_CHAIN"
  match Decimal.Integer.parseUInt16 (Text.trim text) with
  | .ok n => return ⟨settings, ⟨⟨n⟩, hash⟩⟩
  | .error fault => throw [s!"SOURCE_CHAIN must be a numeric chain id: {fault.message}"]

/-- Reports that answer the query; an empty list does not. -/
def answered (reports : List StatusReport) : Option (List StatusReport) :=
  if reports.isEmpty then none else some reports

def ask (q : StatusQuery) : Client.Session (List StatusReport) := do
  let client ← Client.new q.settings.executorUrl q.settings.retry
  ExceptT.mk <| Dialogue.polling q.settings.status fun _ => do
    return answered <$> (← (client.reports q.tx).run)

/-- The context of an error and its text. -/
def complain (q : StatusQuery) (e : Error) : List String :=
  [s!"No relay status for {q.tx.hash} on chain {q.tx.chain.text}", e.message]

def render (reports : List StatusReport) : String :=
  String.join (reports.map fun r => (Form.statusReport.write r).pretty ++ "\n")

end StatusQuery

end TokenBridge
