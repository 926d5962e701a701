import TokenBridge.Identity
import TokenBridge.Instant
import TokenBridge.Relay.Status
import TokenBridge.Stage
import TokenBridge.Text.LowerCase

/-!
# What can go wrong

`Error` has one constructor for each cause. `Error.message` words it and
`Error.failureClass` says how a caller should react; only `transient` errors are
worth another attempt. Errors of a chain backend are text: `hintsAtTransience` looks
for words of a temporary failure, and words of a permanent one win over them.
-/

namespace TokenBridge

/-- Why an amount has no counterpart at another number of decimals. -/
inductive ScalingFault where
  | exponent
  | amount
  deriving DecidableEq, Repr

/-- Why an exchange with a server gave no answer to read. -/
inductive ExchangeFault where
  | unreachable
  | unreadable
  deriving DecidableEq, Repr

inductive FailureClass where
  | configuration
  | rateLimited
  | unapproved
  | decode
  | quote
  | relay
  | arithmetic
  | transient
  | permanent
  deriving DecidableEq, Repr

inductive Error where
  | peerMismatch (chain : ChainId) (reason : String)
  | peerNotRegistered (chain : ChainId)
  | transceiverNotRegistered (index : UInt8)
  | transceiverPeerNotRegistered (index : UInt8) (chain : ChainId)
  | tooManyTransceivers (most : UInt8)
  | invalidThreshold (threshold enabled : UInt8)
  | invalidRecipientChain (expected got : ChainId)
  | misconfigured (reason : String)
  | rateLimitExceeded (requested capacity : UInt64)
  | unapprovedMessage (id : MessageId) (chain : ChainId) (votes threshold : UInt8)
  | releaseNotReady (releaseAfter : UInt64)
  | unknownMessage (id : MessageId) (chain : ChainId)
  | unknownDeparture (id : UInt64)
  | cannotCancel (id : UInt64) (reason : String)
  | unsupportedInstruction (tag : UInt8)
  | truncated (offset needed remaining : Nat)
  | invalidPayload (reason : String)
  | quoteExpired (expiry : Instant)
  | recipientMismatch
  | unsupportedRoute (chain : ChainId) (reason : String)
  | relayRequestTooLarge (reason : String)
  | invalidFee (reason : String)
  | invalidQuote (reason : String)
  | relayFailed (status : RelayStatus)
  | overflow (what : String)
  | scaling (fault : ScalingFault)
  | wrongStage (operation : String) (stage : Stage)
  | missingAttestation
  | exchange (fault : ExchangeFault)
  | refused (status : UInt16) (body : String)
  | timeout (attempts : UInt32)
  | backend (text : String)
  deriving DecidableEq, Repr

def ScalingFault.message : ScalingFault → String
  | .exponent => "Decimal scaling exponent overflows u64"
  | .amount => "Scaled amount overflows u64"

def ExchangeFault.message : ExchangeFault → String
  | .unreachable => "the server cannot be reached"
  | .unreadable => "the response body cannot be read"

def FailureClass.name : FailureClass → String
  | .configuration => "Configuration"
  | .rateLimited => "RateLimited"
  | .unapproved => "Unapproved"
  | .decode => "Decode"
  | .quote => "Quote"
  | .relay => "Relay"
  | .arithmetic => "Arithmetic"
  | .transient => "Transient"
  | .permanent => "Permanent"

def FailureClass.all : List FailureClass :=
  [.configuration, .rateLimited, .unapproved, .decode, .quote, .relay, .arithmetic, .transient,
    .permanent]

def FailureClass.ofName? (n : String) : Option FailureClass := all.find? (·.name == n)

theorem FailureClass.ofName?_name (c : FailureClass) : ofName? c.name = some c := by
  cases c <;> decide

/-- Words of failures that another attempt cannot mend. -/
def permanentWords : List String :=
  ["reverted", "invalid signature", "insufficient funds", "invalid parameters", "already executed"]

/-- Words of failures that may pass. -/
def transientWords : List String :=
  ["timeout", "timed out", "connection", "network", "rate limit", "too many requests", "503",
    "502", "temporarily unavailable"]

def hintsAtTransience (text : String) : Bool :=
  let lowered := (Text.lower text).toList
  let mentions (words : List String) := words.any fun w => Text.occursIn w.toList lowered
  !mentions permanentWords && mentions transientWords

namespace Error

def message : Error → String
  | peerMismatch chain reason => s!"Peer mismatch for chain {chain.text}: {reason}"
  | peerNotRegistered chain => s!"No peer registered for chain {chain.text}"
  | transceiverNotRegistered index => s!"Transceiver {index.toNat} is not registered"
  | transceiverPeerNotRegistered index chain =>
    s!"Transceiver {index.toNat} has no peer registered for chain {chain.text}"
  | tooManyTransceivers most => s!"Cannot register more than {most.toNat} transceivers"
  | invalidThreshold threshold enabled =>
    s!"Invalid threshold {threshold.toNat}: {enabled.toNat} transceivers enabled"
  | invalidRecipientChain expected got =>
    s!"Invalid recipient chain: expected {expected.text}, got {got.text}"
  | misconfigured reason => s!"Configuration error: {reason}"
  | rateLimitExceeded requested capacity =>
    s!"Rate limit exceeded: requested {requested.toNat}, capacity {capacity.toNat}"
  | unapprovedMessage id chain votes threshold =>
    s!"Message {id.text} from chain {chain.text} is not approved ({votes.toNat}/{threshold.toNat} votes)"
  | releaseNotReady releaseAfter => s!"Release not ready until {releaseAfter.toNat}"
  | unknownMessage id chain => s!"Unknown inbound message {id.text} from chain {chain.text}"
  | unknownDeparture id => s!"Unknown outbox item {id.toNat}"
  | cannotCancel id reason => s!"Outbox item {id.toNat} cannot be cancelled: {reason}"
  | unsupportedInstruction tag => s!"Unsupported relay instruction type: {tag.toNat}"
  | truncated offset needed remaining =>
    s!"Truncated input: needed {needed} bytes at offset {offset}, {remaining} remaining"
  | invalidPayload reason => s!"Invalid payload: {reason}"
  | quoteExpired expiry => s!"Quote expired at {expiry.text}"
  | recipientMismatch => "Gas drop-off recipient does not match the transfer recipient"
  | unsupportedRoute chain reason => s!"Unsupported route to chain {chain.text}: {reason}"
  | relayRequestTooLarge reason => s!"Relay request exceeds executor limits: {reason}"
  | invalidFee reason => s!"Invalid fee: {reason}"
  | invalidQuote reason => s!"Invalid signed quote: {reason}"
  | relayFailed status => s!"Relay failed with status: {status.name}"
  | overflow what => s!"Arithmetic overflow in {what}"
  | scaling fault => fault.message
  | wrongStage operation stage => s!"Cannot {operation} a transfer in state {stage.name}"
  | missingAttestation => "No attestation found for transfer"
  | exchange fault => s!"HTTP request failed: {fault.message}"
  | refused status body => s!"Executor API returned {status.toNat}: {body}"
  | timeout attempts => s!"Gave up after {attempts.toNat} attempts"
  | backend text => s!"Chain client error: {text}"

def failureClass : Error → FailureClass
  | peerMismatch .. | peerNotRegistered .. | transceiverNotRegistered ..
  | transceiverPeerNotRegistered .. | tooManyTransceivers .. | invalidThreshold ..
  | invalidRecipientChain .. | misconfigured .. => .configuration
  | rateLimitExceeded .. | releaseNotReady .. => .rateLimited
  | unapprovedMessage .. => .unapproved
  | unsupportedInstruction .. | truncated .. | invalidPayload .. => .decode
  | quoteExpired .. | recipientMismatch | unsupportedRoute .. | relayRequestTooLarge ..
  | invalidFee .. | invalidQuote .. => .quote
  | relayFailed .. => .relay
  | overflow .. | scaling .. => .arithmetic
  | exchange .unreachable => .transient
  | exchange .unreadable => .permanent
  | refused status _ => if status == 429 || status ≥ 500 then .transient else .permanent
  | backend text => if hintsAtTransience text then .transient else .permanent
  | unknownMessage .. | unknownDeparture .. | cannotCancel .. | wrongStage ..
  | missingAttestation | timeout .. => .permanent

def isTransient (e : Error) : Bool := e.failureClass == .transient

end Error

end TokenBridge
