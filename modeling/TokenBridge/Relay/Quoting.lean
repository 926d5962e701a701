import TokenBridge.Backend
import TokenBridge.Relay.SignedQuote

/-!
# Getting a quote

`quoting` asks the executor what it offers and the destination what a redemption needs,
plans the instructions within the advertised limits, and has them priced and signed. The
answer is not trusted: the signed quote has to be for the route that was asked for and
still valid.
-/

namespace TokenBridge

open Conversation

/-- What the executor offers at the destination of a route that it serves. -/
def servedBy (table : CapabilityTable) (source destination : ChainId) :
    Except Error Capabilities := do
  if (table.get? source).isNone then
    throw (.unsupportedRoute source "executor does not serve source chain")
  match table.get? destination with
  | some c =>
    if c.supports .nativeTransfer then return c
    else throw (.unsupportedRoute destination "destination does not accept ERN1 requests")
  | none => throw (.unsupportedRoute destination "destination does not accept ERN1 requests")

/-- The cost in a reply. -/
def costOf (reply : QuoteReply) : Except Error Wide :=
  match reply.estimatedCost with
  | none => .error (.invalidQuote "no estimated cost")
  | some text =>
    match Decimal.Integer.parseWide text with
    | .ok n => .ok n
    | .error fault => .error (.invalidQuote s!"estimated cost: {fault.message}")

/-- The bytes and content of a reply's signed quote, if it is for this route and valid now. -/
def signedQuoteOf (reply : QuoteReply) (source destination : ChainId) (now : Instant) :
    Except Error (Bytes × SignedQuote) := do
  let bytes ← SignedQuote.bytesOfHex reply.signedQuote
  let quote ← SignedQuote.ofBytes bytes
  if quote.source ≠ source ∨ quote.destination ≠ destination then
    throw (.invalidQuote
      s!"quote is for {quote.source.text} -> {quote.destination.text}, requested {source.text} -> {destination.text}")
  if quote.expiry.le now then throw (.quoteExpired quote.expiry)
  return (bytes, quote)

/-- An amount as the recipient will count it. -/
def receivedOf (units : UInt64) (sourceDecimals destinationDecimals cap : UInt8) :
    Except Error UInt64 := do
  let trimmed ← scaled (Amount.trim units sourceDecimals destinationDecimals cap)
  scaled (trimmed.untrim destinationDecimals)

/-- Warns of an amount that the destination could not release at once. -/
def capacityWarnings (source : ChainId) (received : UInt64) : Conversation (List QuoteWarning) := do
  let period : UInt64 ← call .ratePeriod
  if period = 0 then return []
  let capacity : UInt64 ← call (.inboundCapacity source)
  return if capacity < received then [.destinationCapacity period] else []

/-- A quote for a request; `fraction` of the drop-off limit is delivered as native currency. -/
def quoting (s : QuoteSettings) (r : TransferRequest) (fraction : Float) (now : Instant) :
    Conversation RelayQuote := do
  let referrer ← s.referrerFor r.source
  let fee ← referrerFee r.amount r.sourceDecimals (s.feeRateFor r.source r.sourceToken)
    r.destinationDecimals s.maxDecimals
  let table ← call .capabilities
  let offer ← servedBy table r.source r.destination
  let dropOff ← dropOffShare fraction offer.dropOffLimit
  let estimate ← call (.estimateGas (if r.recipient.isZero then none else some r.recipient))
  let gasLimit := (s.gasLimits.get? (r.destination, r.destinationToken)).getD estimate.gasLimit
  let instructions ← offer.plan gasLimit estimate.msgValue dropOff r.recipient
  let reply ← call (.signedQuote r.source r.destination instructions)
  let estimatedCost ← costOf reply
  let (bytes, quote) ← signedQuoteOf reply r.source r.destination now
  let received ← receivedOf fee.remaining r.sourceDecimals r.destinationDecimals s.maxDecimals
  let warnings ← capacityWarnings r.source received
  return {
    signedQuote := bytes, instructions, estimatedCost, payee := quote.payee, referrer
    referrerFee := fee.fee, remaining := fee.remaining, feeRate := fee.rate
    expires := quote.expiry, dropOff, received, warnings }

end TokenBridge
