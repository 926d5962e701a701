import TokenBridge.Arrival
import TokenBridge.Departure
import TokenBridge.Peer
import TokenBridge.Transceiver

/-!
# An endpoint of the bridge

An `Endpoint` is the state that one chain keeps for one token: its peers and
transceivers, how many votes approve a message, the quotas, and the messages that
arrive and depart. Quotas count in `quotaDecimals`. An `Action` answers a caller and
gives the next state; an action that fails also gives the state that it leaves, which
is the old one unless its description says otherwise.
-/

namespace TokenBridge

/-- Where an endpoint stands. -/
structure Site where
  chain : ChainId
  manager : Address
  token : Address
  tokenDecimals : UInt8
  deriving DecidableEq, Repr

/-- What all endpoints of a deployment agree on. -/
structure Terms where
  period : Period
  /-- No amount crosses with more decimals. -/
  maxDecimals : UInt8
  /-- Value that flows one way gives capacity back the other way. -/
  credit : Bool
  deriving DecidableEq, Repr

structure Endpoint where
  site : Site
  terms : Terms
  peers : Peers
  transceivers : Transceivers
  threshold : UInt8
  outbound : Quota
  arrivals : Arrivals
  departures : Departures
  nextSequence : UInt64
  deriving DecidableEq, Repr

namespace Endpoint

abbrev Action (α : Type) := Endpoint → Except Error α × Endpoint

def establish (site : Site) (terms : Terms) (outboundLimit now : UInt64) : Except Error Endpoint :=
  if site.tokenDecimals = 0 then .error (.misconfigured "token decimals must be non-zero")
  else if site.manager.isZero ∨ site.token.isZero then
    .error (.misconfigured "manager and token addresses must be non-zero")
  else .ok {
    site, terms, peers := .empty, transceivers := .none, threshold := 0
    outbound := Quota.full outboundLimit now
    arrivals := .empty, departures := .none, nextSequence := 0 }

/-- The decimals that quotas count in. -/
def quotaDecimals (e : Endpoint) : UInt8 := min e.terms.maxDecimals e.site.tokenDecimals

/-- An action that keeps the state when it fails. -/
def commit {α : Type} (f : Endpoint → Except Error (α × Endpoint)) : Action α := fun e =>
  match f e with
  | .error err => (.error err, e)
  | .ok (a, next) => (.ok a, next)

/-! ## Peers and transceivers -/

def registerPeer (chain : ChainId) (manager : Address) (tokenDecimals : UInt8)
    (limit now : UInt64) : Action Peer :=
  commit fun e => do
    if chain = e.site.chain then
      throw (.misconfigured s!"cannot register chain {chain.text} as its own peer")
    let (peer, peers) ← e.peers.register e.terms.period chain manager tokenDecimals limit now
    return (peer, { e with peers })

def updatePeer (chain : ChainId) (manager : Address) (tokenDecimals : UInt8) : Action Peer :=
  commit fun e => do
    let (peer, peers) ← e.peers.update chain manager tokenDecimals
    return (peer, { e with peers })

/-- The first registration raises the threshold from zero to one. -/
def registerTransceiver (address : Address) : Action UInt8 :=
  commit fun e => do
    let (index, transceivers) ← e.transceivers.register address
    return (index, { e with transceivers, threshold := if e.threshold = 0 then 1 else e.threshold })

/-- Lowers a threshold that the remaining transceivers cannot reach. -/
def deregisterTransceiver (index : UInt8) : Action Unit :=
  commit fun e => do
    let transceivers ← e.transceivers.deregister index
    return ((), { e with transceivers, threshold := min e.threshold transceivers.enabledCount })

def setTransceiverPeer (index : UInt8) (chain : ChainId) (address : Address) : Action Unit :=
  commit fun e => do
    return ((), { e with transceivers := ← e.transceivers.setPeer index chain address })

def setThreshold (threshold : UInt8) : Action Unit :=
  commit fun e => do
    let enabled := e.transceivers.enabledCount
    if threshold = 0 ∨ enabled < threshold then throw (.invalidThreshold threshold enabled)
    return ((), { e with threshold })

/-! ## Quotas -/

def outboundCapacity (e : Endpoint) (now : UInt64) : UInt64 := e.outbound.available e.terms.period now

def inboundCapacity (e : Endpoint) (chain : ChainId) (now : UInt64) : Except Error UInt64 := do
  return (← e.peers.require chain).inbound.available e.terms.period now

def setOutboundLimit (limit now : UInt64) : Action Unit := fun e =>
  (.ok (), { e with outbound := e.outbound.resize e.terms.period now limit })

def setInboundLimit (chain : ChainId) (limit now : UInt64) : Action Unit :=
  commit fun e => do
    let peer ← e.peers.require chain
    return ((), { e with
      peers := e.peers.setInbound peer (peer.inbound.resize e.terms.period now limit) })

/-- Gives a peer's inbound quota the capacity of value that went out to it. -/
def creditInbound (e : Endpoint) (chain : ChainId) (amount now : UInt64) : Except Error Endpoint := do
  let peer ← e.peers.require chain
  if e.terms.credit then
    return { e with
      peers := e.peers.setInbound peer (peer.inbound.refund e.terms.period now amount) }
  else return e

/-- Gives the outbound quota the capacity of value that came in. -/
def creditOutbound (e : Endpoint) (amount now : UInt64) : Endpoint :=
  if e.terms.credit then { e with outbound := e.outbound.refund e.terms.period now amount } else e

end Endpoint

end TokenBridge
