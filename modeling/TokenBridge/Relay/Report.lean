import TokenBridge.Identity
import TokenBridge.Instant
import TokenBridge.Json.Value
import TokenBridge.Relay.Status

/-!
# Status reports

What the executor tells about the relay requests that it found in a source transaction.
Amounts and hashes are kept as the executor writes them, and its own account of the
signed quote is kept as it is.
-/

namespace TokenBridge

/-- A request as the executor read it from the source transaction. -/
structure RelayRequest where
  quoter : String
  amountPaid : String
  destination : ChainId
  destinationAddress : String
  refundAddress : String
  signedQuote : String
  request : String
  instructions : String
  time : Instant
  deriving DecidableEq, Repr

/-- A transaction that the executor submitted at the destination. -/
structure RelayTransaction where
  hash : String
  chain : ChainId
  block : String
  time : Option Instant
  cost : String
  deriving DecidableEq, Repr

structure StatusReport where
  id : String
  txHash : String
  chain : ChainId
  status : RelayStatus
  estimatedCost : Option String
  request : Option RelayRequest
  transactions : List RelayTransaction
  indexedAt : Option Instant
  signedQuote : Option Json.Value

/-- The status of the first request that was found. -/
def latestStatus (reports : List StatusReport) : Option RelayStatus :=
  reports.head?.map (·.status)

end TokenBridge
