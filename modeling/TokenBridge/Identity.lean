import TokenBridge.Chain
import TokenBridge.Bytes.Hex

/-!
# Addresses, message ids and transactions

Accounts on every chain share one address form of 32 bytes; shorter native
addresses stand behind zeros. A message id holds a sequence number in its last
eight bytes. Both are shown as `0x` and 64 digits.
-/

namespace TokenBridge

structure Address where
  word : Bytes32
  deriving DecidableEq, Repr

structure MessageId where
  word : Bytes32
  deriving DecidableEq, Repr

namespace Address

def zero : Address := ⟨Bytes32.zero⟩

def isZero (a : Address) : Bool := a == zero

def bytes (a : Address) : Bytes := a.word.val

@[simp] theorem length_bytes (a : Address) : a.bytes.length = 32 := a.word.property

def text (a : Address) : String := Hex.prefixed a.bytes

end Address

namespace MessageId

def bytes (i : MessageId) : Bytes := i.word.val

@[simp] theorem length_bytes (i : MessageId) : i.bytes.length = 32 := i.word.property

def ofSequence (n : UInt64) : MessageId := ⟨Bytes32.ofNat n.toNat⟩

theorem ofSequence_inj {a b : UInt64} : ofSequence a = ofSequence b ↔ a = b := by
  refine ⟨fun h => ?_, fun h => h ▸ rfl⟩
  have hb : Bytes.ofNat 32 a.toNat = Bytes.ofNat 32 b.toNat :=
    congrArg (fun i : MessageId => i.word.val) h
  have hn := congrArg Bytes.toNat hb
  have hc (n : UInt64) : n.toNat < Bytes.capacity 32 :=
    Nat.lt_trans n.toNat_lt (by decide)
  rw [Bytes.toNat_ofNat, Bytes.toNat_ofNat, Nat.mod_eq_of_lt (hc a), Nat.mod_eq_of_lt (hc b)] at hn
  exact UInt64.toNat_inj.1 hn

def text (i : MessageId) : String := Hex.prefixed i.bytes

end MessageId

/-- A transaction submitted on some chain. -/
structure Transaction where
  chain : ChainId
  hash : String
  deriving DecidableEq, Repr

def Transaction.text (t : Transaction) : String := t.hash ++ "@" ++ t.chain.text

end TokenBridge
