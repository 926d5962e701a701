import TokenBridge.IndexSet
import TokenBridge.Table

/-!
# Transceivers

Transceivers carry messages between chains and vote for those they saw. Each is known
by its index, the order of its registration, which is never given to another: a
deregistered transceiver keeps its slot and only leaves the set of `enabled` ones.
For every remote chain a transceiver has at most one peer, and that peer never
changes.
-/

namespace TokenBridge

structure Transceiver where
  index : UInt8
  address : Address
  /-- The transceiver on each remote chain that this one listens to. -/
  peers : Table ChainId Address
  deriving DecidableEq, Repr

structure Transceivers where
  slots : List Transceiver
  enabled : IndexSet
  deriving DecidableEq, Repr

namespace Transceivers

def none : Transceivers := ⟨[], .empty⟩

/-- The first transceiver at an address. -/
def at? (ts : Transceivers) (address : Address) : Option Transceiver :=
  ts.slots.find? (·.address == address)

def get? (ts : Transceivers) (index : UInt8) : Option Transceiver := ts.slots[index.toNat]?

def isEnabled (ts : Transceivers) (index : UInt8) : Bool :=
  index.toNat < ts.slots.length && ts.enabled.has index.toNat

def requireEnabled (ts : Transceivers) (index : UInt8) : Except Error Transceiver :=
  match ts.get? index with
  | some t => if ts.isEnabled index then .ok t else .error (.transceiverNotRegistered index)
  | .none => .error (.transceiverNotRegistered index)

def enabledCount (ts : Transceivers) : UInt8 := ts.enabled.sharedCount ts.enabled

/-- Registers or re-enables a transceiver and tells its index. -/
def register (ts : Transceivers) (address : Address) : Except Error (UInt8 × Transceivers) :=
  if address.isZero then .error (.misconfigured "transceiver address must be non-zero")
  else
    match ts.at? address with
    | some known => do
      return (known.index, { ts with enabled := ← ts.enabled.set known.index true })
    | .none =>
      if IndexSet.capacity.toNat ≤ ts.slots.length then
        .error (.tooManyTransceivers IndexSet.capacity)
      else do
        let index := UInt8.ofNat ts.slots.length
        return (index, ⟨ts.slots ++ [⟨index, address, .empty⟩], ← ts.enabled.set index true⟩)

def deregister (ts : Transceivers) (index : UInt8) : Except Error Transceivers :=
  if ts.isEnabled index then do
    return { ts with enabled := ← ts.enabled.set index false }
  else .error (.transceiverNotRegistered index)

def peer? (ts : Transceivers) (index : UInt8) (chain : ChainId) : Option Address := do
  (← ts.get? index).peers.get? chain

def setPeer (ts : Transceivers) (index : UInt8) (chain : ChainId) (address : Address) :
    Except Error Transceivers :=
  if chain.number = 0 ∨ address.isZero then
    .error (.misconfigured
      s!"transceiver peer for chain {chain.text} must have a non-zero chain and address")
  else do
    let t ← ts.requireEnabled index
    match t.peers.get? chain with
    | some known =>
      if known = address then return ts
      else throw (.peerMismatch chain
        s!"transceiver {index.toNat} already has peer {known.text} registered")
    | .none =>
      let next : Transceiver := { t with peers := t.peers.set chain address }
      return { ts with slots := ts.slots.set index.toNat next }

end Transceivers

end TokenBridge
