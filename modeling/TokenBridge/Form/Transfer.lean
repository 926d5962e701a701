import TokenBridge.Form.Message
import TokenBridge.Form.Relay
import TokenBridge.Transfer.Receipt

/-!
# JSON forms of transfers
-/

namespace TokenBridge.Form

open Json Record

def stage : Form Stage := Form.names Stage.name Stage.all none

def failureClass : Form FailureClass := Form.names FailureClass.name FailureClass.all none

def request : Form TransferRequest :=
  Record.form <| TransferRequest.mk
    <$> field "from" TransferRequest.source chain
    <*> field "to" TransferRequest.destination chain
    <*> field "sender" TransferRequest.sender address
    <*> field "recipient" TransferRequest.recipient address
    <*> field "source_token" TransferRequest.sourceToken address
    <*> field "destination_token" TransferRequest.destinationToken address
    <*> field "amount" TransferRequest.amount Form.uint64
    <*> field "source_decimals" TransferRequest.sourceDecimals Form.uint8
    <*> field "destination_decimals" TransferRequest.destinationDecimals Form.uint8
    <*> field "should_queue" TransferRequest.mayQueue Form.bool

def failure : Form TransferFailure :=
  Record.form <| TransferFailure.mk
    <$> field "class" TransferFailure.cause failureClass
    <*> field "reason" TransferFailure.reason Form.text
    <*> optional "relay_status" TransferFailure.relayStatus relayStatus
    <*> field "last_state" TransferFailure.lastStage stage

def receipt : Form Receipt :=
  Record.form <| Receipt.mk
    <$> field "from" Receipt.source chain
    <*> field "to" Receipt.destination chain
    <*> field "state" Receipt.stage stage
    <*> field "origin_txs" Receipt.sourceTxs transaction.list
    <*> optional "attestation" Receipt.attestation attestation
    <*> field "destination_txs" Receipt.destinationTxs transaction.list
    <*> optional "queue_release_time" Receipt.queueReleaseTime instant
    <*> optional "failure" Receipt.failure failure

end TokenBridge.Form
