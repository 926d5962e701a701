import TokenBridge.Form.Relay
import TokenBridge.Url

/-!
# Executor client

An executor answers JSON requests below a base URL. A `Client.Request` names the URL and
the posted text, if there is one; what carries it to the server is left open. Each request
is repeated after transient errors, among them servers that cannot be reached and those
that are busy or broken; any other refusal is final.
-/

namespace TokenBridge

structure Client where
  /-- Without a slash at its end. -/
  baseUrl : String
  retry : RetryPolicy

namespace Client

structure Request where
  url : String
  /-- Nothing is posted with a request that only reads. -/
  posted : Option String
  deriving DecidableEq, Repr

def Request.method (r : Request) : String := if r.posted.isSome then "POST" else "GET"

structure Response where
  status : UInt16
  body : String
  deriving DecidableEq, Repr

abbrev Outcome : Type := Except ExchangeFault Response

/-- Exchanges with a server that end in a value or an error. -/
abbrev Session (α : Type) := ExceptT Error (Dialogue Request fun _ => Outcome) α

/-- A text without the slashes at its end. -/
def withoutSlashes (url : String) : String :=
  String.ofList (url.toList.reverse.dropWhile (· = '/')).reverse

def new (url : String) (retry : RetryPolicy) : Except Error Client :=
  match Url.check url with
  | .ok () => .ok ⟨withoutSlashes url, retry⟩
  | .error problem => .error (.misconfigured s!"invalid executor URL {url}: {problem.message}")

/-- The value in a response with a status of success. -/
def readResponse {α : Type} (decoder : Json.Decoder α) : Outcome → Except Error α
  | .error fault => .error (.exchange fault)
  | .ok response =>
    if response.status < 200 ∨ 300 ≤ response.status then
      .error (.refused response.status response.body)
    else
      match decoder.ofText response.body with
      | .ok a => .ok a
      | .error _ => .error (.exchange .unreadable)

def exchange {α : Type} (c : Client) (r : Request) (decoder : Json.Decoder α) : Session α :=
  ExceptT.mk <| Dialogue.retrying c.retry fun _ => do
    return readResponse decoder (← Dialogue.question r)

def fetch {α : Type} (c : Client) (path : String) (decoder : Json.Decoder α) : Session α :=
  c.exchange ⟨c.baseUrl ++ path, none⟩ decoder

def post {α : Type} (c : Client) (path : String) (body : Json.Value) (decoder : Json.Decoder α) :
    Session α :=
  c.exchange ⟨c.baseUrl ++ path, some body.compact⟩ decoder

/-! ## Requests -/

def capabilities (c : Client) : Session CapabilityTable := do
  let entries : List (String × Capabilities) ← c.fetch "/v0/capabilities" Form.capabilityEntries
  Capabilities.byChain entries

def quote (c : Client) (source destination : ChainId) (instructions : List RelayInstruction) :
    Session QuoteReply :=
  c.post "/v0/quote"
    (.object [("srcChain", Form.chain.write source), ("dstChain", Form.chain.write destination),
      ("relayInstructions", .str (RelayInstruction.encodeHex instructions))])
    Form.quoteReply.read

/-- The relay requests that the executor found in a source transaction. -/
def reports (c : Client) (tx : Transaction) : Session (List StatusReport) :=
  c.post "/v0/status/tx"
    (.object [("txHash", .str tx.hash), ("chainId", Form.chain.write tx.chain)])
    Form.statusReport.list.read

def relayStatus (c : Client) (tx : Transaction) : Session (Option RelayStatus) :=
  latestStatus <$> c.reports tx

end Client

end TokenBridge
