import TokenBridge.Attestation
import TokenBridge.Dialogue.Patience
import TokenBridge.Relay.Quote
import TokenBridge.Transfer.Request

/-!
# Backends

A transfer involves a source chain, a destination chain, and an executor. A `Call` is a
question to one of them and `Call.Reply` is what it answers if it does not fail. A
`Conversation` is a dialogue of such calls that may end in an error.
-/

namespace TokenBridge

/-- A transfer that waits for inbound capacity at its destination. -/
structure WaitingTransfer where
  recipient : Address
  /-- In the token's own decimals there. -/
  amount : UInt64
  /-- Seconds since 1970 after which it can be released. -/
  expiry : UInt64
  deriving DecidableEq, Repr

/-- What a redemption needs at the destination. -/
structure GasEstimate where
  gasLimit : Wide
  msgValue : Wide
  deriving DecidableEq, Repr

/-- An executor's answer to a request for a signed quote. -/
structure QuoteReply where
  signedQuote : String
  estimatedCost : Option String
  deriving DecidableEq, Repr

inductive Call where
  -- the source chain
  | submitTransfer (request : TransferRequest) (quote : RelayQuote)
  | isFinalized (tx : Transaction)
  | fetchAttestation (tx : Transaction)
  -- the destination chain
  | isApproved (a : Attestation)
  | isExecuted (a : Attestation)
  | waitingTransfer (a : Attestation)
  | redeem (a : Attestation)
  | completeWaiting (a : Attestation)
  | estimateGas (recipient : Option Address)
  | inboundCapacity (source : ChainId)
  | ratePeriod
  -- the executor
  | relayStatus (tx : Transaction)
  | capabilities
  | signedQuote (source destination : ChainId) (instructions : List RelayInstruction)
  deriving DecidableEq, Repr

@[reducible] def Call.Reply : Call → Type
  | submitTransfer .. => List Transaction
  | isFinalized _ => Bool
  | fetchAttestation _ => Option Attestation
  | isApproved _ => Bool
  | isExecuted _ => Bool
  | waitingTransfer _ => Option WaitingTransfer
  | redeem _ => List Transaction
  | completeWaiting _ => List Transaction
  | estimateGas _ => GasEstimate
  | inboundCapacity _ => UInt64
  | ratePeriod => UInt64
  | relayStatus _ => Option RelayStatus
  | capabilities => CapabilityTable
  | signedQuote .. => QuoteReply

abbrev Call.Outcome (c : Call) : Type := Except Error c.Reply

abbrev Conversation (α : Type) := ExceptT Error (Dialogue Call Call.Outcome) α

namespace Conversation

def call (c : Call) : Conversation c.Reply := ExceptT.mk (Dialogue.question c)

/-- Asks again after transient errors. -/
def callPatiently (p : RetryPolicy) (c : Call) : Conversation c.Reply :=
  ExceptT.mk (Dialogue.retrying p fun _ => Dialogue.question c)

/-- Rests for a while. -/
def wait (p : Pause) : Conversation Unit := ExceptT.lift (Dialogue.wait p)

end Conversation

end TokenBridge
