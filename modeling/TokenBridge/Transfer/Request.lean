import TokenBridge.Identity

/-!
# Transfer requests

What a sender wants from a relayed transfer. The amount counts in source decimals.
-/

namespace TokenBridge

structure TransferRequest where
  source : ChainId
  destination : ChainId
  sender : Address
  recipient : Address
  sourceToken : Address
  destinationToken : Address
  amount : UInt64
  sourceDecimals : UInt8
  destinationDecimals : UInt8
  /-- Wait for outbound capacity rather than fail. -/
  mayQueue : Bool
  deriving DecidableEq, Repr

end TokenBridge
