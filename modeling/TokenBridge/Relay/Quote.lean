import TokenBridge.Relay.Capabilities
import TokenBridge.Relay.Fee
import TokenBridge.Decimal.Shortest
import TokenBridge.Word

/-!
# Relay quotes

A `RelayQuote` is what a sender hands to the source chain together with a transfer: the
signed quote, the instructions that it was signed for, and what the transfer will cost
and deliver. `validate` repeats the checks that matter at the moment of submission.
-/

namespace TokenBridge

/-- Something the sender should know before submitting. -/
inductive QuoteWarning where
  | destinationCapacity (delaySeconds : UInt64)
  deriving DecidableEq, Repr

structure RelayQuote where
  signedQuote : Bytes
  instructions : List RelayInstruction
  /-- In the native currency of the source chain. -/
  estimatedCost : Wide
  payee : Address
  referrer : Address
  referrerFee : UInt64
  /-- After the fee, in source decimals. -/
  remaining : UInt64
  feeRate : UInt16
  expires : Instant
  dropOff : Wide
  /-- What remains, in destination decimals. -/
  received : UInt64
  warnings : List QuoteWarning
  deriving DecidableEq, Repr

/-- How a deployment prices transfers. -/
structure QuoteSettings where
  feeRate : UInt32
  maxDecimals : UInt8
  /-- In place of the default referrer of the source chain. -/
  referrer : Option Address
  /-- Rates for tokens on their source chain. -/
  feeRates : Table (ChainId × Address) UInt32
  /-- Gas limits for tokens on their destination chain. -/
  gasLimits : Table (ChainId × Address) Wide
  deriving DecidableEq, Repr

namespace QuoteSettings

def feeRateFor (s : QuoteSettings) (chain : ChainId) (token : Address) : UInt32 :=
  (s.feeRates.get? (chain, token)).getD s.feeRate

def referrerFor (s : QuoteSettings) (chain : ChainId) : Except Error Address :=
  match s.referrer with
  | some a => .ok a
  | none => defaultReferrer chain

end QuoteSettings

/-- A fraction of a drop-off limit, to the nearest whole percent of it. -/
def dropOffShare (fraction : Float) (limit : Wide) : Except Error Wide :=
  if !(0 ≤ fraction && fraction ≤ 1) then
    .error (.invalidQuote s!"native gas fraction {Decimal.plainText fraction} outside 0..=1")
  else if fraction == 0 || limit == 0 then .ok 0
  else
    match Wide.mul? (BitVec.ofNat 128 (fraction * 100).round.toUInt64.toNat) limit with
    | some n => .ok (n / 100)
    | none => .error (.overflow "gas drop-off")

namespace RelayQuote

def isExpired (q : RelayQuote) (now : Instant) : Bool := q.expires.le now

/-- Whether an instruction drops nothing off, or at this address. -/
def dropsOffAt (recipient : Address) : RelayInstruction → Bool
  | .gas .. => true
  | .dropOff _ target => target == recipient

def validate (q : RelayQuote) (recipient : Address) (now : Instant) : Except Error Unit :=
  if q.isExpired now then .error (.quoteExpired q.expires)
  else if q.instructions.all (dropsOffAt recipient) then .ok ()
  else .error .recipientMismatch

end RelayQuote

end TokenBridge
