import TokenBridge.Endpoint.Incoming
import TokenBridge.Form.Identity

/-!
# JSON forms of messages and of an endpoint's records
-/

namespace TokenBridge.Form

open Json Record

def amount : Form Amount :=
  Record.form <| Amount.mk
    <$> field "amount" Amount.units Form.uint64
    <*> field "decimals" Amount.decimals Form.uint8

def indexSet : Form IndexSet :=
  Record.form <| IndexSet.mk <$> field "map" IndexSet.bits Form.wide

def quota : Form Quota :=
  Record.form <| Quota.mk
    <$> field "limit" Quota.limit Form.uint64
    <*> field "capacity_at_last_update" Quota.remaining Form.uint64
    <*> field "last_update" Quota.asOf Form.uint64

def message : Form TransferMessage :=
  Record.form <| TransferMessage.mk
    <$> field "id" TransferMessage.id messageId
    <*> field "source_chain" TransferMessage.sourceChain chain
    <*> field "source_manager" TransferMessage.sourceManager address
    <*> field "sender" TransferMessage.sender address
    <*> field "source_token" TransferMessage.sourceToken address
    <*> field "recipient_chain" TransferMessage.recipientChain chain
    <*> field "recipient_address" TransferMessage.recipient address
    <*> field "trimmed_amount" TransferMessage.amount amount
    <*> withDefault "additional_payload" TransferMessage.payload bytes []

def attestation : Form Attestation :=
  Record.form <| Attestation.mk
    <$> field "emitter_chain" Attestation.emitterChain chain
    <*> field "emitter" Attestation.emitter address
    <*> field "sequence" Attestation.sequence Form.uint64
    <*> field "message" Attestation.message message

def peer : Form Peer :=
  Record.form <| Peer.mk
    <$> field "chain" Peer.chain chain
    <*> field "manager_address" Peer.manager address
    <*> field "token_decimals" Peer.tokenDecimals Form.uint8
    <*> field "inbound_limit" Peer.inbound quota

/-- A transceiver's peer on a chain. -/
def transceiverPeer : Form (ChainId × Address) :=
  Record.form <| Prod.mk
    <$> field "chain" Prod.fst chain
    <*> field "address" Prod.snd address

def releaseStatus : Form ReleaseStatus where
  write
    | .notApproved => .str "NotApproved"
    | .releaseAfter time => .object [("ReleaseAfter", .nat time.toNat)]
    | .released => .str "Released"
  read := Decoder.oneOf
    [.unit "NotApproved" .notApproved, .carrying "ReleaseAfter" Form.uint64.read .releaseAfter,
      .unit "Released" .released] none

def payout : Form Payout :=
  Record.form <| Payout.mk
    <$> field "source_chain" Payout.sourceChain chain
    <*> field "message_id" Payout.id messageId
    <*> field "recipient" Payout.recipient address
    <*> field "amount" Payout.amount Form.uint64

def departure : Form Departure :=
  Record.form <| Departure.mk
    <$> field "id" Departure.id Form.uint64
    <*> field "message" Departure.message message
    <*> field "amount" Departure.amount amount
    <*> field "dust" Departure.dust Form.uint64
    <*> field "release_timestamp" Departure.releaseTime Form.uint64
    <*> field "queued" Departure.queued Form.bool
    <*> field "released" Departure.releasedBy indexSet

def site : Form Site :=
  Record.form <| Site.mk
    <$> field "chain" Site.chain chain
    <*> field "address" Site.manager address
    <*> field "token" Site.token address
    <*> field "token_decimals" Site.tokenDecimals Form.uint8

end TokenBridge.Form
