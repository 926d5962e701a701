import TokenBridge.Identity.Text
import TokenBridge.Json.Form

/-!
# JSON forms of identities, bytes and times

Chains are numbers, addresses and bytes are hexadecimal text, times are text, and a
message id is the list of its 32 bytes.
-/

namespace TokenBridge.Form

open Json

def chain : Form ChainId := Form.uint16.via ChainId.mk ChainId.number

def address : Form Address := Form.ofText Address.text fun s => (Address.ofHex s).toOption

def bytes : Form Bytes :=
  Form.ofText Hex.prefixed fun s => (Hex.decode (Hex.unprefixed s)).toOption

def messageId : Form MessageId where
  write i := .list (i.bytes.map fun b => .nat b.toNat)
  read room t := MessageId.mk <$> Decoder.exactly 32 Form.uint8.read room t

def instant : Form Instant := Form.ofText Instant.rfc3339 Instant.ofRfc3339?

def transaction : Form Transaction :=
  Record.form <| Transaction.mk
    <$> Record.field "chain" Transaction.chain chain
    <*> Record.field "txid" Transaction.hash Form.text

def network : Form Network := Form.names Network.name Network.all none

def platformName : Platform → String
  | .evm => "Evm"
  | .solana => "Solana"
  | .sui => "Sui"

def platform : Form Platform := Form.names platformName [.evm, .solana, .sui] none

end TokenBridge.Form
