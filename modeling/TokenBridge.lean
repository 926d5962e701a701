import TokenBridge.Endpoint.Run
import TokenBridge.Form.Transfer
import TokenBridge.Main
import TokenBridge.Message.Codec
import TokenBridge.Relay.Quoting
import TokenBridge.Transfer.Tracker
import TokenBridge.Proofs.History
import TokenBridge.Proofs.Effect
import TokenBridge.Proofs.IndexSet
import TokenBridge.Proofs.Enrolment
import TokenBridge.Proofs.Change
import TokenBridge.Proofs.Arrival
import TokenBridge.Proofs.Regular
import TokenBridge.Proofs.Amount
import TokenBridge.Proofs.Payment
import TokenBridge.Proofs.Quorum
import TokenBridge.Proofs.Threshold
import TokenBridge.Proofs.Quota
import TokenBridge.Proofs.Spending
import TokenBridge.Proofs.Failure
import TokenBridge.Proofs.Conservation
import TokenBridge.Proofs.Ballot
import TokenBridge.Proofs.Departure
import TokenBridge.Proofs.Numbering
import TokenBridge.Proofs.Reading
import TokenBridge.Proofs.Encoding
import TokenBridge.Proofs.Waiting
import TokenBridge.Proofs.Settlement
import TokenBridge.Proofs.Hex
import TokenBridge.Proofs.Instruction
import TokenBridge.Proofs.Transcript
import TokenBridge.Proofs.Referral
import TokenBridge.Proofs.Quoting
import TokenBridge.Proofs.SignedQuote
import TokenBridge.Proofs.Patience
import TokenBridge.Proofs.Lifecycle
import TokenBridge.Proofs.Tracking
import TokenBridge.Proofs.Redemption
import TokenBridge.Proofs.Limit
import TokenBridge.Proofs.Isolation
import TokenBridge.Proofs.Refill
import TokenBridge.Proofs.Deferral
import TokenBridge.Proofs.Exactness
import TokenBridge.Proofs.Checkpoint
import TokenBridge.Proofs.Measuring
import TokenBridge.Proofs.Resizing
import TokenBridge.Proofs.Rescaling
import TokenBridge.Proofs.Digits
import TokenBridge.Proofs.ChainKeys
import TokenBridge.Proofs.Json.Lexing
import TokenBridge.Proofs.Json.Parsing
import TokenBridge.Proofs.Json.Restoring
import TokenBridge.Proofs.Calendar
import TokenBridge.Proofs.Timestamps
import TokenBridge.Proofs.Receipts
import TokenBridge.Proofs.HeldNumbers
import TokenBridge.Proofs.Totals
import TokenBridge.Proofs.Cursor
import TokenBridge.Proofs.Writes
