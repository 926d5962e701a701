import TokenBridge.Quota
import TokenBridge.Table

/-!
# Peers on other chains

An endpoint knows one `Peer` for each remote chain: the manager that speaks for the
token there, its decimals, and the quota for transfers that arrive from it.
Registering a peer again may only change the limit; `update` replaces its address and
decimals and keeps the quota.
-/

namespace TokenBridge

structure Peer where
  chain : ChainId
  manager : Address
  tokenDecimals : UInt8
  /-- For transfers that arrive from this chain. -/
  inbound : Quota
  deriving DecidableEq, Repr

abbrev Peers := Table ChainId Peer

namespace Peers

def validate (chain : ChainId) (manager : Address) (tokenDecimals : UInt8) : Except Error Unit :=
  if chain.number = 0 then .error (.misconfigured "peer chain id must be non-zero")
  else if manager.isZero then
    .error (.misconfigured s!"peer address for chain {chain.text} must be non-zero")
  else if tokenDecimals = 0 then
    .error (.misconfigured s!"peer token decimals for chain {chain.text} must be non-zero")
  else .ok ()

def require (ps : Peers) (chain : ChainId) : Except Error Peer :=
  match ps.get? chain with
  | some peer => .ok peer
  | none => .error (.peerNotRegistered chain)

/-- The peer as it stands after a registration. -/
def registered (period : Period) (known : Option Peer) (chain : ChainId) (manager : Address)
    (tokenDecimals : UInt8) (limit now : UInt64) : Except Error Peer :=
  match known with
  | none => .ok ⟨chain, manager, tokenDecimals, Quota.full limit now⟩
  | some peer =>
    if peer.manager ≠ manager then
      .error (.peerMismatch chain
        s!"registered address {peer.manager.text} differs from {manager.text}")
    else if peer.tokenDecimals ≠ tokenDecimals then
      .error (.peerMismatch chain
        s!"registered decimals {peer.tokenDecimals.toNat} differ from {tokenDecimals.toNat}")
    else .ok { peer with inbound := peer.inbound.resize period now limit }

def register (period : Period) (ps : Peers) (chain : ChainId) (manager : Address)
    (tokenDecimals : UInt8) (limit now : UInt64) : Except Error (Peer × Peers) := do
  validate chain manager tokenDecimals
  let peer ← registered period (ps.get? chain) chain manager tokenDecimals limit now
  return (peer, ps.set chain peer)

def update (ps : Peers) (chain : ChainId) (manager : Address) (tokenDecimals : UInt8) :
    Except Error (Peer × Peers) := do
  validate chain manager tokenDecimals
  let peer := { ← ps.require chain with manager, tokenDecimals }
  return (peer, ps.set chain peer)

/-- Replaces the inbound quota of a registered peer. -/
def setInbound (ps : Peers) (peer : Peer) (inbound : Quota) : Peers :=
  ps.set peer.chain { peer with inbound }

end Peers

end TokenBridge
