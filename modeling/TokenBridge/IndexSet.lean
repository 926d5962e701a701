import TokenBridge.Error
import TokenBridge.Word

/-!
# Sets of transceiver indices

Transceivers have the indices 0 to 127, and a set of them is a word of 128 bits: who
voted for a message, who released a transfer, who is enabled. An index of 128 or more
belongs to no transceiver and is refused.
-/

namespace TokenBridge

structure IndexSet where
  bits : Wide
  deriving DecidableEq, Repr

namespace IndexSet

/-- One more than the last index. -/
def capacity : UInt8 := 128

def empty : IndexSet := ⟨0⟩

def full : IndexSet := ⟨BitVec.allOnes 128⟩

def has (s : IndexSet) (index : Nat) : Bool := s.bits.getLsbD index

def set (s : IndexSet) (index : UInt8) (value : Bool) : Except Error IndexSet :=
  if capacity ≤ index then .error (.transceiverNotRegistered index)
  else
    let bit : Wide := 1#128 <<< index.toNat
    .ok ⟨if value then s.bits ||| bit else s.bits &&& ~~~bit⟩

def get (s : IndexSet) (index : UInt8) : Except Error Bool :=
  if capacity ≤ index then .error (.transceiverNotRegistered index)
  else .ok (s.has index.toNat)

def toList (s : IndexSet) : List Nat := (List.range 128).filter s.has

def size (s : IndexSet) : Nat := s.toList.length

def isEmpty (s : IndexSet) : Bool := s.bits == 0

def inter (s t : IndexSet) : IndexSet := ⟨s.bits &&& t.bits⟩

/-- How many indices two sets share; at most 128. -/
def sharedCount (s t : IndexSet) : UInt8 := UInt8.ofNat (s.inter t).size

theorem size_le (s : IndexSet) : s.size ≤ 128 := by
  have h := List.length_filter_le s.has (List.range 128)
  simpa [size, toList] using h

@[simp] theorem mem_toList {s : IndexSet} {i : Nat} : i ∈ s.toList ↔ s.has i = true := by
  simp only [toList, List.mem_filter, List.mem_range, and_iff_right_iff_imp, has]
  intro h
  by_cases hi : i < 128
  · exact hi
  · rw [BitVec.getLsbD_of_ge _ _ (by omega)] at h
    cases h

@[simp] theorem has_inter (s t : IndexSet) (i : Nat) : (s.inter t).has i = (s.has i && t.has i) :=
  BitVec.getLsbD_and

end IndexSet

end TokenBridge
