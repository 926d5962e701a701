import TokenBridge.Bytes.Cursor
import TokenBridge.Bytes.Keccak
import TokenBridge.Message

/-!
# Messages as bytes

```
id                 32
sender             32
body length         2
body:
  tag               4   99 'N' 'T' 'T'
  decimals          1
  units             8
  source token     32
  recipient        32
  recipient chain   2
  payload length    2   absent for an empty payload
  payload
```

The source chain and its manager are not written: the envelope that carries a message
tells them. `decode` accepts this layout and nothing after it; an explicit empty
payload is read like an absent one. `digest` is unique across chains because it also
covers the source chain.
-/

namespace TokenBridge.TransferMessage

def bodyTag : Bytes := [0x99, 0x4E, 0x54, 0x54]

/-- The part of the body that every message has. -/
def fixedBody (m : TransferMessage) : Bytes :=
  bodyTag ++ [m.amount.decimals] ++ Bytes.ofNat 8 m.amount.units.toNat ++ m.sourceToken.bytes
    ++ m.recipient.bytes ++ m.recipientChain.toBytes

/-- A payload behind its length, or nothing for the empty payload. -/
def payloadField (payload : Bytes) : Bytes :=
  if payload.isEmpty then [] else Bytes.ofNat 2 payload.length ++ payload

def body (m : TransferMessage) : Bytes := m.fixedBody ++ payloadField m.payload

def encode (m : TransferMessage) : Except Error Bytes :=
  if m.body.length < UInt16.size then
    .ok (m.id.bytes ++ m.sender.bytes ++ Bytes.ofNat 2 m.body.length ++ m.body)
  else .error (.invalidPayload s!"payload of {m.body.length} bytes exceeds u16 length")

def readPayload : Reading Bytes := do
  if (← get).isEmpty then return []
  else
    let length ← Reading.uint16
    Reading.bytes length.toNat

/-- The body of a message whose other parts are given. -/
def readBody (id : MessageId) (sender : Address) (sourceChain : ChainId) (sourceManager : Address) :
    Reading TransferMessage := do
  let tag ← Reading.bytes 4
  if tag ≠ bodyTag then
    throw (.invalidPayload s!"invalid transfer prefix {Hex.prefixed tag}")
  let decimals ← Reading.uint8
  let units ← Reading.uint64
  let sourceToken ← Reading.address
  let recipient ← Reading.address
  let recipientChain ← Reading.chain
  let payload ← readPayload
  Reading.finish
  return {
    id, sourceChain, sourceManager, sender, sourceToken, recipientChain, recipient
    amount := ⟨units, decimals⟩, payload }

/-- The id, the sender and the bytes of the body. -/
def readEnvelope : Reading (MessageId × Address × Bytes) := do
  let id ← Reading.word32
  let sender ← Reading.address
  let length ← Reading.uint16
  let body ← Reading.bytes length.toNat
  Reading.finish
  return (⟨id⟩, sender, body)

def decode (sourceChain : ChainId) (sourceManager : Address) (b : Bytes) :
    Except Error TransferMessage := do
  let (id, sender, body) ← readEnvelope.of b
  (readBody id sender sourceChain sourceManager).of body

def digest (m : TransferMessage) : Except Error Bytes32 := do
  return keccak256 (m.sourceChain.toBytes ++ (← m.encode))

theorem length_fixedBody (m : TransferMessage) : m.fixedBody.length = 79 := by
  simp [fixedBody, bodyTag]

end TokenBridge.TransferMessage
