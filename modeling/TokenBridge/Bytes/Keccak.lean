import TokenBridge.Bytes

/-!
# The Keccak-256 hash

A sponge over a state of 25 lanes of 64 bits, lane `x + 5 * y` at column `x` and
row `y`. `round` is one round of the permutation, `absorb` mixes in one block of
136 bytes, and `keccak256` pads with `1 … 1` bits and reads the first four lanes.
-/

namespace TokenBridge.Keccak

abbrev State := Vector UInt64 25

def lane (s : State) (x y : Nat) : UInt64 :=
  s.get ⟨x % 5 + 5 * (y % 5), by omega⟩

def build (f : (x y : Nat) → UInt64) : State :=
  Vector.ofFn fun i => f (i.val % 5) (i.val / 5)

def rotateLeft (w : UInt64) (n : UInt64) : UInt64 := w <<< n ||| w >>> (64 - n)

/-- How far the lane in column `x` and row `y` is rotated, listed row by row. -/
def offsets : State :=
  #v[0, 1, 62, 28, 27,
     36, 44, 6, 55, 20,
     3, 10, 43, 25, 39,
     41, 45, 15, 21, 8,
     18, 2, 61, 56, 14]

def roundConstants : List UInt64 :=
  [0x0000000000000001, 0x0000000000008082, 0x800000000000808A, 0x8000000080008000,
   0x000000000000808B, 0x0000000080000001, 0x8000000080008081, 0x8000000000008009,
   0x000000000000008A, 0x0000000000000088, 0x0000000080008009, 0x000000008000000A,
   0x000000008000808B, 0x800000000000008B, 0x8000000000008089, 0x8000000000008003,
   0x8000000000008002, 0x8000000000000080, 0x000000000000800A, 0x800000008000000A,
   0x8000000080008081, 0x8000000000008080, 0x0000000080000001, 0x8000000080008008]

def parity (s : State) (x : Nat) : UInt64 :=
  lane s x 0 ^^^ lane s x 1 ^^^ lane s x 2 ^^^ lane s x 3 ^^^ lane s x 4

def theta (s : State) : State :=
  let c : Vector UInt64 5 := Vector.ofFn fun i => parity s i.val
  let column (x : Nat) : UInt64 := c.get ⟨x % 5, by omega⟩
  build fun x y => lane s x y ^^^ column (x + 4) ^^^ rotateLeft (column (x + 1)) 1

/-- Rotates every lane by its offset and moves it to its new place. -/
def rhoPi (s : State) : State :=
  build fun x y => rotateLeft (lane s (x + 3 * y) x) (lane offsets (x + 3 * y) x)

def chi (s : State) : State :=
  build fun x y => lane s x y ^^^ (~~~(lane s (x + 1) y) &&& lane s (x + 2) y)

def round (s : State) (constant : UInt64) : State :=
  let mixed := chi (rhoPi (theta s))
  mixed.set 0 (mixed[0] ^^^ constant)

def permute (s : State) : State := roundConstants.foldl round s

/-- The lane that eight bytes hold, least significant byte first. -/
def laneOfBytes (b : Bytes) : UInt64 := UInt64.ofNat (Bytes.toNat b.reverse)

/-- Bytes of one block per absorption. -/
def rate : Nat := 136

def absorb (s : State) (block : Array UInt8) : State :=
  permute <| Vector.ofFn fun i =>
    if i.val < 17 then s[i] ^^^ laneOfBytes ((List.range 8).map fun j => block.getD (8 * i.val + j) 0)
    else s[i]

/-- The bytes appended to a message of the given length to fill its last block. -/
def padding (length : Nat) : Bytes :=
  match rate - length % rate with
  | 1 => [0x81]
  | n => 0x01 :: (List.replicate (n - 2) 0 ++ [0x80])

def absorbAll (s : State) : (blocks : Nat) → Bytes → State
  | 0, _ => s
  | blocks + 1, b => absorbAll (absorb s (b.take rate).toArray) blocks (b.drop rate)

def squeeze (s : State) : Bytes :=
  (List.range 4).flatMap fun i => (Bytes.ofNat 8 (lane s i 0).toNat).reverse

theorem length_squeeze (s : State) : (squeeze s).length = 32 := by
  simp [squeeze, List.range, List.range.loop]

end TokenBridge.Keccak

namespace TokenBridge

/-- The digest of a byte string. -/
def keccak256 (b : Bytes) : Bytes32 :=
  let padded := b ++ Keccak.padding b.length
  let blocks := padded.length / Keccak.rate
  ⟨Keccak.squeeze (Keccak.absorbAll (Vector.replicate 25 0) blocks padded),
    Keccak.length_squeeze _⟩

end TokenBridge
