import TokenBridge.Bytes.Cursor

/-!
# Signed quotes

An executor signs what it asks for a relay. The 165 bytes of a quote are

```
tag                 4   "EQ01"
quoter             20
payee              32
source chain        2
destination chain   2
expiry              8   seconds since 1970
base fee            8
gas price           8   on the destination
source price        8
destination price   8
signature          65
```

`ofBytes` reads them; an expiry after the supported calendar is refused before the
fields that follow it are read.
-/

namespace TokenBridge

structure SignedQuote where
  quoter : { b : Bytes // b.length = 20 }
  payee : Address
  source : ChainId
  destination : ChainId
  expiry : Instant
  baseFee : UInt64
  gasPrice : UInt64
  sourcePrice : UInt64
  destinationPrice : UInt64
  signature : { b : Bytes // b.length = 65 }
  deriving DecidableEq, Repr

namespace SignedQuote

def tag : Bytes := [0x45, 0x51, 0x30, 0x31]

def size : Nat := 165

def expiryOf (seconds : UInt64) : Except Error Instant :=
  match Instant.ofSeconds? seconds.toNat with
  | some t => .ok t
  | none => .error (.invalidQuote s!"expiry {seconds.toNat} out of range")

def reading : Reading SignedQuote := do
  let start ← Reading.bytes 4
  if start ≠ tag then throw (.invalidQuote s!"unexpected prefix {Hex.prefixed start}")
  let quoter ← Reading.take 20
  let payee ← Reading.address
  let source ← Reading.chain
  let destination ← Reading.chain
  let expiry ← expiryOf (← Reading.uint64)
  let baseFee ← Reading.uint64
  let gasPrice ← Reading.uint64
  let sourcePrice ← Reading.uint64
  let destinationPrice ← Reading.uint64
  let signature ← Reading.take 65
  Reading.finish
  return { quoter, payee, source, destination, expiry, baseFee, gasPrice, sourcePrice,
           destinationPrice, signature }

def ofBytes (b : Bytes) : Except Error SignedQuote := reading.of b

def bytesOfHex (text : String) : Except Error Bytes :=
  match Hex.decode (Hex.unprefixed text) with
  | .ok b => .ok b
  | .error fault => .error (.invalidQuote s!"signed quote is not hex: {fault.message}")

def ofHex (text : String) : Except Error SignedQuote := do ofBytes (← bytesOfHex text)

end SignedQuote

end TokenBridge
