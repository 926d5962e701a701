import TokenBridge.Bytes.Cursor
import TokenBridge.Word

/-!
# Relay instructions

An instruction tells the executor what to spend on the destination chain: gas and a
message value for the redemption, or native currency dropped off at a recipient. As
bytes an instruction is a tag and two fixed fields,

```
gas        01  gas limit 16  msg value 16
drop-off   02  drop-off  16  recipient 32
```

and a list is their concatenation. `decode` reads records until nothing is left and
rejects the whole input at an unknown tag. `totals` adds up a list exactly.
-/

namespace TokenBridge

inductive RelayInstruction where
  | gas (gasLimit msgValue : Wide)
  | dropOff (value : Wide) (recipient : Address)
  deriving DecidableEq, Repr

structure RelayTotals where
  gasLimit : Wide
  msgValue : Wide
  dropOff : Wide
  deriving DecidableEq, Repr

namespace RelayInstruction

def tag : RelayInstruction → UInt8
  | gas .. => 1
  | dropOff .. => 2

def fields : RelayInstruction → Bytes
  | gas gasLimit msgValue => Bytes.ofNat 16 gasLimit.toNat ++ Bytes.ofNat 16 msgValue.toNat
  | dropOff value recipient => Bytes.ofNat 16 value.toNat ++ recipient.bytes

def toBytes (i : RelayInstruction) : Bytes := i.tag :: i.fields

def encode (is : List RelayInstruction) : Bytes := is.flatMap toBytes

def reading : Reading RelayInstruction := do
  match ← Reading.uint8 with
  | 1 => return .gas (← Reading.wide) (← Reading.wide)
  | 2 => return .dropOff (← Reading.wide) (← Reading.address)
  | tag => throw (.unsupportedInstruction tag)

/-- Reads instructions until nothing is left; `most` bounds their number. -/
def readAll : (most : Nat) → Reading (List RelayInstruction)
  | 0 => return []
  | most + 1 => do
    if (← get).isEmpty then return []
    else
      let i ← reading
      return i :: (← readAll most)

/-- Each instruction takes at least one byte, so there are no more of them than bytes. -/
def decode (b : Bytes) : Except Error (List RelayInstruction) := (readAll b.length).of b

def encodeHex (is : List RelayInstruction) : String := Hex.prefixed (encode is)

def decodeHex (text : String) : Except Error (List RelayInstruction) :=
  match Hex.decode (Hex.unprefixed text) with
  | .error fault => .error (.invalidPayload s!"relay instructions are not hex: {fault.message}")
  | .ok b => decode b

def addWide (what : String) (a b : Wide) : Except Error Wide :=
  match Wide.add? a b with
  | some sum => .ok sum
  | none => .error (.overflow what)

def addTo (t : RelayTotals) : RelayInstruction → Except Error RelayTotals
  | gas gasLimit msgValue => do
    let gasLimit ← addWide "total gas limit" t.gasLimit gasLimit
    let msgValue ← addWide "total msg value" t.msgValue msgValue
    return ⟨gasLimit, msgValue, t.dropOff⟩
  | dropOff value _ => do
    return ⟨t.gasLimit, t.msgValue, ← addWide "total drop-off" t.dropOff value⟩

def totals (is : List RelayInstruction) : Except Error RelayTotals :=
  is.foldlM addTo ⟨0, 0, 0⟩

theorem length_toBytes (i : RelayInstruction) :
    i.toBytes.length = match i with | gas .. => 33 | dropOff .. => 49 := by
  cases i <;> simp [toBytes, fields]

end RelayInstruction

end TokenBridge
