import TokenBridge.Amount

/-!
# Transfer messages

A `TransferMessage` is what one chain tells another: move this amount to that
recipient. Its id is unique among the messages of its source chain.
-/

namespace TokenBridge

structure TransferMessage where
  id : MessageId
  sourceChain : ChainId
  sourceManager : Address
  /-- Who asked for the transfer. -/
  sender : Address
  sourceToken : Address
  recipientChain : ChainId
  recipient : Address
  amount : Amount
  /-- Bytes carried along for the recipient. -/
  payload : Bytes
  deriving DecidableEq, Repr

end TokenBridge
