import TokenBridge.Backend
import TokenBridge.Form.Identity
import TokenBridge.Relay.Report
import TokenBridge.Text.Blank

/-!
# JSON forms of what executors send and get

An instruction is a tagged object with numbers of 128 bits. A tagged object is read whole
before its kind is known, with numbers held as words of 64 bits or doubles, and a field of
128 bits takes neither; so instructions are written but never read back.
-/

namespace TokenBridge.Form

open Json Record

/-! ## Capabilities -/

def requestKindName (k : RequestKind) : String := k.tag?.getD "Unknown"

def requestKind : Form RequestKind :=
  Form.names requestKindName
    [.message, .approval, .nativeTransfer, .burnAndMint, .fastBurnAndMint] (some .unknown)

/-- A number of 128 bits as decimal text, with blanks around it allowed. -/
def wideText : Form Wide :=
  Form.ofText Wide.text fun s => (Decimal.Integer.parseWide (Text.trim s)).toOption

def capabilities : Form Capabilities :=
  Record.form <| Capabilities.mk
    <$> field "requestPrefixes" Capabilities.kinds requestKind.list
    <*> field "gasDropOffLimit" Capabilities.dropOffLimit wideText
    <*> field "maxGasLimit" Capabilities.maxGasLimit wideText
    <*> field "maxMsgValue" Capabilities.maxMsgValue wideText

/-- Entries without those that a later one of the same name replaces. -/
def lastOfEach {α : Type} (entries : List (String × α)) : List (String × α) :=
  (entries.foldl (fun t e => Table.set t e.1 e.2) (Table.empty : Table String α)).entries

/-- The published capabilities by the text that names a chain. -/
def capabilityEntries : Decoder (List (String × Capabilities)) := fun room t =>
  lastOfEach <$> Decoder.members capabilities.read room t

/-! ## Quotes -/

def referrerFee : Form ReferrerFee :=
  Record.form <| ReferrerFee.mk
    <$> field "referrer_fee" ReferrerFee.fee Form.uint64
    <*> field "remaining_amount" ReferrerFee.remaining Form.uint64
    <*> field "referrer_fee_dbps" ReferrerFee.rate Form.uint16

def gasTag : String := "GasInstruction"

def dropOffTag : String := "GasDropOffInstruction"

/-- A number of 128 bits in a value that is read whole before its kind is known. -/
def heldWide : Form Wide where
  write := Form.wide.write
  read _ _ := .error .wrongShape

def gasFields : Record (Wide × Wide) RelayInstruction :=
  RelayInstruction.gas
    <$> field "gasLimit" Prod.fst heldWide
    <*> field "msgValue" Prod.snd heldWide

def dropOffFields : Record (Wide × Address) RelayInstruction :=
  RelayInstruction.dropOff
    <$> field "dropOff" Prod.fst heldWide
    <*> field "recipient" Prod.snd address

def writeInstruction : RelayInstruction → Value
  | .gas gasLimit msgValue =>
    .object (("type", .str gasTag) :: gasFields.write (gasLimit, msgValue))
  | .dropOff value recipient =>
    .object (("type", .str dropOffTag) :: dropOffFields.write (value, recipient))

def instruction : Form RelayInstruction where
  write := writeInstruction
  read room t := do
    let (name, rest) ← Decoder.tagged "type" [gasTag, dropOffTag] room t
    if name = gasTag then gasFields.read (room + 1) rest else dropOffFields.read (room + 1) rest

def capacityTag : String := "DestinationCapacityWarning"

/-- The only field of a capacity warning, from an object or list without its tag. -/
def readDelay (room : Nat) : Tree → Except Problem UInt64
  | .list (_ :: _ :: _) _ => .error .wrongShape
  | t => (Record.field "delayDurationSecs" id Form.uint64).read (room + 1) t

def warning : Form QuoteWarning where
  write
    | .destinationCapacity delay =>
      .object [("type", .str capacityTag), ("delayDurationSecs", .nat delay.toNat)]
  read room t := do
    let (_, rest) ← Decoder.tagged "type" [capacityTag] room t
    .destinationCapacity <$> readDelay room rest

def quote : Form RelayQuote :=
  Record.form <| RelayQuote.mk
    <$> field "signedQuote" RelayQuote.signedQuote bytes
    <*> field "relayInstructions" RelayQuote.instructions instruction.list
    <*> field "estimatedCost" RelayQuote.estimatedCost Form.wide
    <*> field "payee" RelayQuote.payee address
    <*> field "referrer" RelayQuote.referrer address
    <*> field "referrerFee" RelayQuote.referrerFee Form.uint64
    <*> field "remainingAmount" RelayQuote.remaining Form.uint64
    <*> field "referrerFeeDbps" RelayQuote.feeRate Form.uint16
    <*> field "expires" RelayQuote.expires instant
    <*> field "gasDropOff" RelayQuote.dropOff Form.wide
    <*> field "receivedAmount" RelayQuote.received Form.uint64
    <*> withDefault "warnings" RelayQuote.warnings warning.list []

def quoteReply : Form QuoteReply :=
  Record.form <| QuoteReply.mk
    <$> field "signedQuote" QuoteReply.signedQuote Form.text
    <*> withDefault "estimatedCost" QuoteReply.estimatedCost Form.text.nullable none

def waitingTransfer : Form WaitingTransfer :=
  Record.form <| WaitingTransfer.mk
    <$> field "recipient" WaitingTransfer.recipient address
    <*> field "amount" WaitingTransfer.amount Form.uint64
    <*> field "rate_limit_expiry_timestamp" WaitingTransfer.expiry Form.uint64

/-! ## Status reports -/

def relayStatus : Form RelayStatus :=
  Form.names RelayStatus.name [.pending, .failed, .unsupported, .submitted, .underpaid, .aborted]
    (some .unknown)

def relayRequest : Form RelayRequest :=
  Record.form <| RelayRequest.mk
    <$> field "quoterAddress" RelayRequest.quoter Form.text
    <*> field "amtPaid" RelayRequest.amountPaid Form.text
    <*> field "dstChain" RelayRequest.destination chain
    <*> field "dstAddr" RelayRequest.destinationAddress Form.text
    <*> field "refundAddr" RelayRequest.refundAddress Form.text
    <*> field "signedQuoteBytes" RelayRequest.signedQuote Form.text
    <*> field "requestBytes" RelayRequest.request Form.text
    <*> field "relayInstructionsBytes" RelayRequest.instructions Form.text
    <*> field "timestamp" RelayRequest.time instant

def relayTransaction : Form RelayTransaction :=
  Record.form <| RelayTransaction.mk
    <$> field "txHash" RelayTransaction.hash Form.text
    <*> field "chainId" RelayTransaction.chain chain
    <*> field "blockNumber" RelayTransaction.block Form.text
    <*> withDefault "blockTime" RelayTransaction.time instant.nullable none
    <*> field "cost" RelayTransaction.cost Form.text

def statusReport : Form StatusReport :=
  Record.form <| StatusReport.mk
    <$> field "id" StatusReport.id Form.text
    <*> field "txHash" StatusReport.txHash Form.text
    <*> field "chainId" StatusReport.chain chain
    <*> field "status" StatusReport.status relayStatus
    <*> withDefault "estimatedCost" StatusReport.estimatedCost Form.text.nullable none
    <*> withDefault "requestForExecution" StatusReport.request relayRequest.nullable none
    <*> withDefault "txs" StatusReport.transactions relayTransaction.list []
    <*> withDefault "indexed_at" StatusReport.indexedAt instant.nullable none
    <*> withDefault "signedQuote" StatusReport.signedQuote Form.any.nullable none

end TokenBridge.Form
