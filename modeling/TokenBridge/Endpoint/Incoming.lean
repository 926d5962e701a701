import TokenBridge.Attestation
import TokenBridge.Endpoint

/-!
# Transfers that arrive

`attest` records one transceiver's vote for a message. The vote that reaches the
threshold charges the inbound quota of the source chain: either the value is released
at once, or it waits and `release` pays it out later. A message is paid out at most
once, and its value is credited to the outbound quota.
-/

namespace TokenBridge

/-- Value handed to a recipient, in the token's own decimals. -/
structure Payout where
  sourceChain : ChainId
  id : MessageId
  recipient : Address
  amount : UInt64
  deriving DecidableEq, Repr

/-- How an attestation left its message. -/
structure AttestReport where
  /-- False if the transceiver had voted before. -/
  isNewVote : Bool
  votes : UInt8
  approved : Bool
  status : ReleaseStatus
  /-- Present only on the call that released the value. -/
  payout : Option Payout
  deriving DecidableEq, Repr

inductive ReleaseReport where
  | released (payout : Payout)
  | alreadyReleased
  deriving DecidableEq, Repr

namespace Endpoint

/-- The amount, in quota decimals, of a message that this endpoint accepts from this
transceiver and emitter. -/
def accept (e : Endpoint) (index : UInt8) (emitter : Address) (m : TransferMessage) :
    Except Error Amount := do
  let chain := m.sourceChain
  let transceiver ← e.transceivers.requireEnabled index
  match transceiver.peers.get? chain with
  | none => throw (.transceiverPeerNotRegistered index chain)
  | some expected =>
    if expected ≠ emitter then
      throw (.peerMismatch chain
        s!"transceiver {index.toNat} expects emitter {expected.text}, got {emitter.text}")
  let peer ← e.peers.require chain
  if peer.manager ≠ m.sourceManager then
    throw (.peerMismatch chain
      s!"expected manager {peer.manager.text}, got {m.sourceManager.text}")
  if m.recipientChain ≠ e.site.chain then
    throw (.invalidRecipientChain e.site.chain m.recipientChain)
  let decimals := m.amount.decimals
  if e.site.tokenDecimals < decimals then
    throw (.invalidPayload
      s!"message decimals {decimals.toNat} exceed local token decimals {e.site.tokenDecimals.toNat}")
  scaled (m.amount.withDecimals e.quotaDecimals)

def payoutOf (e : Endpoint) (m : TransferMessage) : Except Error Payout := do
  return ⟨m.sourceChain, m.id, m.recipient, ← scaled (m.amount.untrim e.site.tokenDecimals)⟩

def putArrival (e : Endpoint) (a : Arrival) : Endpoint := { e with arrivals := e.arrivals.put a }

/-- Charges the units of an approved message to the inbound quota and releases or schedules
it. A charge that fails leaves the message as it is; a value that cannot be counted in the
token's decimals fails after the message is marked as released. -/
def settle (e : Endpoint) (a : Arrival) (units now : UInt64) :
    Except Error (ReleaseStatus × Option Payout) × Endpoint :=
  let m := a.message
  let charge := do
    let peer ← e.peers.require m.sourceChain
    return (peer, ← peer.inbound.spend e.terms.period now units .queue)
  match charge with
  | .error err => (.error err, e)
  | .ok (_, .queued releaseAt) =>
    let waiting := (a.schedule releaseAt).2
    (.ok (waiting.status, none), e.putArrival waiting)
  | .ok (peer, .spent next) =>
    let paid := a.releaseNow.2
    let e := { e with peers := e.peers.setInbound peer next }.putArrival paid
    match e.payoutOf m with
    | .error err => (.error err, e)
    | .ok payout => (.ok (paid.status, some payout), e.creditOutbound units now)

/-- Records the vote of a transceiver for a message that reached it from `emitter`. An error
of the quota or of the payout leaves the vote in place. -/
def attest (index : UInt8) (emitter : Address) (m : TransferMessage) (now : UInt64) :
    Action AttestReport := fun e =>
  let ballot := do
    let amount ← e.accept index emitter m
    let a ← e.arrivals.entryFor m amount
    return (amount, ← a.vote index)
  match ballot with
  | .error err => (.error err, e)
  | .ok (amount, isNewVote, a) =>
    let e := e.putArrival a
    let votes := a.voteCount e.transceivers.enabled
    let approved := a.isApproved e.transceivers.enabled e.threshold
    let (settled, next) :=
      if approved && a.status == .notApproved then e.settle a amount.units now
      else (.ok (a.status, none), e)
    (settled.map fun (status, payout) => ⟨isNewVote, votes, approved, status, payout⟩, next)

/-- Delivers an attestation; its envelope has to name the chain of its message. -/
def deliver (index : UInt8) (emitter : Address) (att : Attestation) (now : UInt64) :
    Action AttestReport := fun e =>
  if att.emitterChain ≠ att.message.sourceChain then
    (.error (.invalidPayload
      s!"attestation from chain {att.emitterChain.text} carries a message from chain {att.message.sourceChain.text}"), e)
  else e.attest index emitter att.message now

def isApproved (e : Endpoint) (chain : ChainId) (id : MessageId) : Bool :=
  match e.arrivals.get? (chain, id) with
  | some a => a.isApproved e.transceivers.enabled e.threshold
  | none => false

/-- The message under a key, if it waits for its release and the wait is over. -/
def dueArrival (e : Endpoint) (chain : ChainId) (id : MessageId) (now : UInt64) :
    Except Error (Option Arrival) := do
  let a ← e.arrivals.require chain id
  match a.status with
  | .released => return none
  | .notApproved =>
    throw (.unapprovedMessage id chain (a.voteCount e.transceivers.enabled) e.threshold)
  | .releaseAfter _ =>
    let (released, next) ← a.tryRelease now
    return if released then some next else none

/-- Pays out a message whose waiting time is over, using up what the inbound quota then has. A
value that cannot be counted, or a missing peer, fails after the message is marked as
released. -/
def release (chain : ChainId) (id : MessageId) (now : UInt64) : Action ReleaseReport := fun e =>
  match e.dueArrival chain id now with
  | .error err => (.error err, e)
  | .ok none => (.ok .alreadyReleased, e)
  | .ok (some paid) =>
    let e := e.putArrival paid
    let payment := do
      let payout ← e.payoutOf paid.message
      return (payout, ← e.peers.require chain)
    match payment with
    | .error err => (.error err, e)
    | .ok (payout, peer) =>
      let inbound := peer.inbound.drain e.terms.period now paid.amount.units
      let charged := { e with peers := e.peers.setInbound peer inbound }
      (.ok (.released payout), charged.creditOutbound paid.amount.units now)

end Endpoint

end TokenBridge
