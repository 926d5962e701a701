import TokenBridge.Bytes

/-!
# Chains and networks

A chain is known by a two-byte number, written big-endian on the wire. `platform?`
is the execution platform of the chains the bridge knows by name; a deployment runs
on one `Network`.
-/

namespace TokenBridge

structure ChainId where
  number : UInt16
  deriving DecidableEq, Repr, Inhabited

inductive Platform where
  | evm
  | solana
  | sui
  deriving DecidableEq, Repr

namespace ChainId

def toBytes (c : ChainId) : Bytes := Bytes.ofNat 2 c.number.toNat

def ofBytes (b : Bytes) : ChainId := ⟨UInt16.ofNat (Bytes.toNat b)⟩

@[simp] theorem length_toBytes (c : ChainId) : c.toBytes.length = 2 := Bytes.length_ofNat ..

theorem ofBytes_toBytes (c : ChainId) : ofBytes c.toBytes = c := by
  cases c with
  | mk n =>
    have h : n.toNat % Bytes.capacity 2 = n.toNat := Nat.mod_eq_of_lt n.toNat_lt
    rw [ofBytes, toBytes, Bytes.toNat_ofNat, h, UInt16.ofNat_toNat]

def text (c : ChainId) : String := toString c.number.toNat

def platform? (c : ChainId) : Option Platform :=
  match c.number.toNat with
  | 1 => some .solana
  | 21 => some .sui
  | 2 | 4 | 5 | 6 | 10 | 14 | 16 | 23 | 24 | 30 | 34 | 39 | 44 | 45 | 47 | 52 | 10002 | 10004 =>
    some .evm
  | _ => none

end ChainId

inductive Network where
  | mainnet
  | testnet
  | devnet
  deriving DecidableEq, Repr

def Network.name : Network → String
  | .mainnet => "Mainnet"
  | .testnet => "Testnet"
  | .devnet => "Devnet"

def Network.all : List Network := [.mainnet, .testnet, .devnet]

/-- The executor that serves a network. -/
def Network.executorUrl? : Network → Option String
  | .mainnet => some "https://executor.labsapis.com"
  | .testnet => some "https://executor-testnet.labsapis.com"
  | .devnet => none

end TokenBridge
