import TokenBridge.Error

/-!
# Reading fixed-width fields

A `Cursor` stands in a byte string: `rest` is unread and `offset` bytes lie behind
it. A `Reading` takes fields from the front; a field longer than the rest fails and
tells where. `finish` accepts only an empty rest.
-/

namespace TokenBridge

structure Cursor where
  offset : Nat
  rest : Bytes
  deriving DecidableEq, Repr

abbrev Reading (α : Type) := StateT Cursor (Except Error) α

namespace Cursor

def start (b : Bytes) : Cursor := ⟨0, b⟩

def remaining (c : Cursor) : Nat := c.rest.length

def isEmpty (c : Cursor) : Bool := c.rest.isEmpty

end Cursor

namespace Reading

/-- The next `n` bytes. -/
def take (n : Nat) : Reading { b : Bytes // b.length = n } := fun c =>
  if h : n ≤ c.rest.length then
    .ok (⟨c.rest.take n, List.length_take_of_le h⟩, ⟨c.offset + n, c.rest.drop n⟩)
  else .error (.truncated c.offset n c.rest.length)

def bytes (n : Nat) : Reading Bytes := do return (← take n).val

def word32 : Reading Bytes32 := take 32

def address : Reading Address := do return ⟨← word32⟩

def uint8 : Reading UInt8 := do return UInt8.ofNat (Bytes.toNat (← bytes 1))

def uint16 : Reading UInt16 := do return UInt16.ofNat (Bytes.toNat (← bytes 2))

def uint64 : Reading UInt64 := do return UInt64.ofNat (Bytes.toNat (← bytes 8))

def wide : Reading (BitVec 128) := do return BitVec.ofNat 128 (Bytes.toNat (← bytes 16))

def chain : Reading ChainId := do return ⟨← uint16⟩

def finish : Reading Unit := do
  let c ← get
  if c.isEmpty then return ()
  else throw (.invalidPayload s!"{c.remaining} trailing bytes at offset {c.offset}")

/-- What a reading makes of a whole byte string, from its start. -/
def of {α : Type} (r : Reading α) (b : Bytes) : Except Error α :=
  (·.1) <$> r.run (Cursor.start b)

end Reading

end TokenBridge
