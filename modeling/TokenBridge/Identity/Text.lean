import TokenBridge.Error
import TokenBridge.Text.Blank

/-!
# Reading identities from text

Addresses and message ids are read from hexadecimal text with or without `0x`; an
address may also be given by the 40 digits of a 20-byte account. Network names are
read in any case and with blanks around them.
-/

namespace TokenBridge

/-- A 32-byte word in hexadecimal; `what` names it in error texts. -/
def Bytes32.ofHex (what text : String) : Except Error Bytes32 :=
  match Hex.decode (Hex.unprefixed text) with
  | .error fault => .error (.invalidPayload s!"{what} is not valid hex: {fault.message}")
  | .ok b =>
    match Bytes32.ofBytes? b with
    | some word => .ok word
    | none => .error (.invalidPayload s!"{what} must be 32 bytes, got {b.length}")

def Address.ofNative (b : Bytes) : Except Error Address :=
  match Bytes32.padLeft? b with
  | some word => .ok ⟨word⟩
  | none => .error (.invalidPayload s!"native address longer than 32 bytes: {b.length}")

def Address.ofHex (text : String) : Except Error Address :=
  let digits := Hex.unprefixed text
  if digits.utf8ByteSize = 40 then
    match Hex.decode digits with
    | .error fault => .error (.invalidPayload s!"invalid address hex: {fault.message}")
    | .ok b => Address.ofNative b
  else Address.mk <$> Bytes32.ofHex "address" text

def MessageId.ofHex (text : String) : Except Error MessageId :=
  MessageId.mk <$> Bytes32.ofHex "message id" text

def Network.ofName (text : String) : Except Error Network :=
  match Text.lower (Text.trim text) with
  | "mainnet" => .ok .mainnet
  | "testnet" => .ok .testnet
  | "devnet" => .ok .devnet
  | other => .error (.misconfigured s!"unknown network: {other}")

end TokenBridge
