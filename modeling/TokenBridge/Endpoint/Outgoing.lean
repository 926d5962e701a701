import TokenBridge.Endpoint

/-!
# Transfers that leave

`transfer` turns an order into a departing message: the amount is trimmed to what both
chains can count, the outbound quota is charged or the departure is queued, and the
message gets the next sequence number. A queued departure is charged when the first
transceiver releases it. What is charged to the outbound quota is credited to the
inbound quota of the chain it goes to.
-/

namespace TokenBridge

/-- What a sender asks for; the amount counts in the token's own decimals. -/
structure TransferOrder where
  amount : UInt64
  recipientChain : ChainId
  recipient : Address
  sender : Address
  /-- Wait for capacity rather than fail. -/
  mayQueue : Bool
  payload : Bytes
  deriving DecidableEq, Repr

structure TransferTicket where
  departure : UInt64
  message : TransferMessage
  dust : UInt64
  /-- Set when the outbound quota deferred the transfer. -/
  queuedUntil : Option UInt64
  deriving DecidableEq, Repr

namespace Endpoint

/-- The trimmed amount of an acceptable order, its dust, and the amount in quota decimals. -/
def measure (e : Endpoint) (o : TransferOrder) : Except Error (Amount × UInt64 × Amount) := do
  if o.recipientChain = e.site.chain then
    throw (.misconfigured s!"recipient chain {o.recipientChain.text} is the local chain")
  if o.recipient.isZero then throw (.invalidPayload "recipient must be non-zero")
  if e.transceivers.enabledCount = 0 then throw (.misconfigured "no transceivers enabled")
  let peer ← e.peers.require o.recipientChain
  let (trimmed, dust) ← scaled <|
    Amount.split o.amount e.site.tokenDecimals peer.tokenDecimals e.terms.maxDecimals
  if trimmed.isZero then
    throw (.invalidPayload s!"amount {o.amount.toNat} is zero after trimming")
  return (trimmed, dust, ← scaled (trimmed.withDecimals e.quotaDecimals))

/-- Writes the next message and stores its departure. -/
def dispatch (e : Endpoint) (o : TransferOrder) (trimmed : Amount) (dust : UInt64) (amount : Amount)
    (releaseTime : UInt64) (queued : Bool) : TransferTicket × Endpoint :=
  let message : TransferMessage := {
    id := .ofSequence e.nextSequence
    sourceChain := e.site.chain
    sourceManager := e.site.manager
    sender := o.sender
    sourceToken := e.site.token
    recipientChain := o.recipientChain
    recipient := o.recipient
    amount := trimmed
    payload := o.payload }
  let (departure, departures) := e.departures.add message amount dust releaseTime queued
  (⟨departure.id, message, dust, if queued then some releaseTime else none⟩,
    { e with departures, nextSequence := e.nextSequence + 1 })

/-- Without the peer that the order goes to, the charge is recorded although the action fails. -/
def transfer (o : TransferOrder) (now : UInt64) : Action TransferTicket := fun e =>
  let quoted := do
    let (trimmed, dust, amount) ← e.measure o
    let onShortage := if o.mayQueue then OnShortage.queue else .refuse
    return (trimmed, dust, amount, ← e.outbound.spend e.terms.period now amount.units onShortage)
  match quoted with
  | .error err => (.error err, e)
  | .ok (trimmed, dust, amount, .queued releaseAt) =>
    let (ticket, next) := e.dispatch o trimmed dust amount releaseAt true
    (.ok ticket, next)
  | .ok (trimmed, dust, amount, .spent next) =>
    let charged := { e with outbound := next }
    match charged.creditInbound o.recipientChain amount.units now with
    | .error err => (.error err, charged)
    | .ok credited =>
      let (ticket, next) := credited.dispatch o trimmed dust amount now false
      (.ok ticket, next)

/-- Charges the first release of a queued departure to the outbound quota. -/
def chargeRelease (e : Endpoint) (d : Departure) (now : UInt64) : Except Error Unit × Endpoint :=
  if d.queued && d.isUntouched then
    let drained := { e with outbound := e.outbound.drain e.terms.period now d.amount.units }
    match drained.creditInbound d.message.recipientChain d.amount.units now with
    | .ok credited => (.ok (), credited)
    | .error err => (.error err, drained)
  else (.ok (), e)

/-- Releases a departure by one transceiver; `false` if it had done so before. Without the
peer that the departure goes to, the release is recorded although the action fails. -/
def releaseDeparture (id : UInt64) (index : UInt8) (now : UInt64) : Action Bool := fun e =>
  let attempt := do
    discard <| e.transceivers.requireEnabled index
    let d ← e.departures.require id
    return (d, ← d.tryRelease index now)
  match attempt with
  | .error err => (.error err, e)
  | .ok (_, false, _) => (.ok false, e)
  | .ok (before, true, after) =>
    let (outcome, next) :=
      chargeRelease { e with departures := e.departures.put after } before now
    (outcome.map fun _ => true, next)

/-- Takes back a queued departure that no transceiver has released. -/
def cancelDeparture (id : UInt64) : Action Departure :=
  commit fun e => do
    let (d, departures) ← e.departures.cancel id
    return (d, { e with departures })

end Endpoint

end TokenBridge
