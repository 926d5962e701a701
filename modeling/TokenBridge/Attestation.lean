import TokenBridge.Message

/-!
# Attestations

What a transceiver saw on a source chain: a message, and the account that emitted it.
-/

namespace TokenBridge

structure Attestation where
  emitterChain : ChainId
  emitter : Address
  sequence : UInt64
  message : TransferMessage
  deriving DecidableEq, Repr

end TokenBridge
