/-!
# Byte strings

Every binary layout of the bridge is a concatenation of fixed-width fields.
`Bytes.ofNat` writes a number into a field, most significant byte first, and
`Bytes.toNat` reads it back; on a field of the right width each undoes the other.
-/

namespace TokenBridge

abbrev Bytes := List UInt8

namespace Bytes

/-- How many numbers a field of `width` bytes tells apart. -/
def capacity : (width : Nat) → Nat
  | 0 => 1
  | width + 1 => 256 * capacity width

/-- The `width` low-order bytes of a number, most significant first. -/
def ofNat : (width n : Nat) → Bytes
  | 0, _ => []
  | width + 1, n => UInt8.ofNat (n / capacity width) :: ofNat width n

/-- The number whose base-256 digits are the bytes. -/
def toNat (b : Bytes) : Nat := b.foldl (fun acc x => acc * 256 + x.toNat) 0

@[simp] theorem length_ofNat (width n : Nat) : (ofNat width n).length = width := by
  induction width with
  | zero => rfl
  | succ width ih => simp [ofNat, ih]

theorem capacity_pos (width : Nat) : 0 < capacity width := by
  induction width with
  | zero => decide
  | succ width ih => rw [capacity]; omega

theorem foldl_eq (b : Bytes) (a : Nat) :
    b.foldl (fun acc x => acc * 256 + x.toNat) a = a * capacity b.length + toNat b := by
  induction b generalizing a with
  | nil => simp [toNat, capacity]
  | cons x b ih =>
    simp only [toNat, List.foldl_cons, List.length_cons]
    rw [ih, ih (0 * 256 + x.toNat), capacity, Nat.add_mul, Nat.zero_mul, Nat.zero_add,
      Nat.mul_assoc, Nat.add_assoc]

theorem toNat_cons (x : UInt8) (b : Bytes) :
    toNat (x :: b) = x.toNat * capacity b.length + toNat b := by
  simp only [toNat, List.foldl_cons, Nat.zero_mul, Nat.zero_add]
  exact foldl_eq b x.toNat

theorem toNat_lt (b : Bytes) : toNat b < capacity b.length := by
  induction b with
  | nil => decide
  | cons x b ih =>
    rw [toNat_cons, List.length_cons, capacity]
    have hx : x.toNat + 1 ≤ 256 := x.toNat_lt
    calc x.toNat * capacity b.length + toNat b
        < x.toNat * capacity b.length + capacity b.length := by omega
      _ = (x.toNat + 1) * capacity b.length := by rw [Nat.add_mul, Nat.one_mul]
      _ ≤ 256 * capacity b.length := Nat.mul_le_mul_right _ hx

theorem toNat_ofNat (width n : Nat) : toNat (ofNat width n) = n % capacity width := by
  induction width with
  | zero => simp [ofNat, toNat, capacity, Nat.mod_one]
  | succ width ih =>
    have h : n % capacity (width + 1) =
        n % capacity width + capacity width * (n / capacity width % 256) := by
      rw [capacity, Nat.mul_comm 256]
      exact Nat.mod_mul
    rw [ofNat, toNat_cons, ih, length_ofNat, UInt8.toNat_ofNat', h, Nat.add_comm, Nat.mul_comm]

theorem ofNat_add_mul (width n k : Nat) : ofNat width (n + k * capacity width) = ofNat width n := by
  induction width generalizing k with
  | zero => rfl
  | succ width ih =>
    have hk : n + k * capacity (width + 1) = n + k * 256 * capacity width := by
      rw [capacity, Nat.mul_assoc]
    rw [ofNat, ofNat, hk, ih, Nat.add_mul_div_right _ _ (capacity_pos _)]
    congr 1
    apply UInt8.toNat_inj.1
    simp [ UInt8.toNat_ofNat']

theorem ofNat_toNat (b : Bytes) : ofNat b.length (toNat b) = b := by
  induction b with
  | nil => rfl
  | cons x b ih =>
    rw [List.length_cons, ofNat, toNat_cons, Nat.add_comm,
      ofNat_add_mul, ih, Nat.add_mul_div_right _ _ (capacity_pos _),
      Nat.div_eq_of_lt (toNat_lt b), Nat.zero_add]
    congr 1
    exact UInt8.toNat_inj.1 (by simp)

end Bytes

/-- A 32-byte word, the width of addresses, message ids and hashes. -/
abbrev Bytes32 := { b : Bytes // b.length = 32 }

namespace Bytes32

/-- The word that holds the low-order 256 bits of a number. -/
def ofNat (n : Nat) : Bytes32 := ⟨Bytes.ofNat 32 n, Bytes.length_ofNat 32 n⟩

def zero : Bytes32 := ofNat 0

theorem length_replicate_append {b : Bytes} (h : b.length ≤ 32) :
    (List.replicate (32 - b.length) 0 ++ b).length = 32 := by
  rw [List.length_append, List.length_replicate, Nat.sub_add_cancel h]

/-- Zeros on the left of a byte string of at most 32 bytes. -/
def padLeft? (b : Bytes) : Option Bytes32 :=
  if h : b.length ≤ 32 then
    some ⟨List.replicate (32 - b.length) 0 ++ b, length_replicate_append h⟩
  else none

def ofBytes? (b : Bytes) : Option Bytes32 :=
  if h : b.length = 32 then some ⟨b, h⟩ else none

end Bytes32

end TokenBridge
