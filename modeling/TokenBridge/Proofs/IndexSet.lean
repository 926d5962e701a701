import TokenBridge.IndexSet

/-!
# Index sets as sets

`has` decides membership, so each operation is described by the members it leaves:
`has_set` for one index, `has_inter` for what two sets share. `sharedCount` counts without
a loss, as there are at most 128 indices.
-/

namespace TokenBridge

namespace IndexSet

theorem capacity_le_iff {index : UInt8} : capacity ≤ index ↔ 128 ≤ index.toNat :=
  UInt8.le_iff_toNat_le

theorem get_eq_ok {s : IndexSet} {index : UInt8} {b : Bool} :
    s.get index = .ok b ↔ index.toNat < 128 ∧ s.has index.toNat = b := by
  unfold get
  split
  · rename_i h
    have := capacity_le_iff.1 h
    simp only [reduceCtorEq, false_iff, not_and]
    omega
  · rename_i h
    have : index.toNat < 128 := by rw [capacity_le_iff] at h; omega
    simp [this]

theorem get_eq_error {s : IndexSet} {index : UInt8} {err : Error} : s.get index = .error err ↔
    128 ≤ index.toNat ∧ .transceiverNotRegistered index = err := by
  rw [get, ← capacity_le_iff]
  split <;> simp [*]

theorem set_eq_error {s : IndexSet} {index : UInt8} {b : Bool} {err : Error} :
    s.set index b = .error err ↔
      128 ≤ index.toNat ∧ .transceiverNotRegistered index = err := by
  rw [set, ← capacity_le_iff]
  split <;> simp [*]

theorem lt_of_set_eq_ok {s t : IndexSet} {index : UInt8} {b : Bool}
    (h : s.set index b = .ok t) : index.toNat < 128 := by
  unfold set at h
  split at h
  · cases h
  · rename_i hn
    rw [capacity_le_iff] at hn
    omega

theorem exists_set {index : UInt8} (s : IndexSet) (h : index.toNat < 128) (b : Bool) :
    ∃ t, s.set index b = .ok t := by
  have hlt : ¬ capacity ≤ index := by
    rw [capacity_le_iff]
    omega
  exact ⟨_, by rw [set, if_neg hlt]⟩

theorem getLsbD_bit {i : Nat} (hi : i < 128) (j : Nat) :
    (1#128 <<< i).getLsbD j = decide (j = i) := by
  rw [BitVec.getLsbD_shiftLeft, BitVec.getLsbD_one, Bool.eq_iff_iff]
  simp only [Bool.and_eq_true, Bool.not_eq_true', decide_eq_true_eq, decide_eq_false_iff_not]
  omega

theorem has_set {s t : IndexSet} {index : UInt8} {b : Bool} (h : s.set index b = .ok t) (j : Nat) :
    t.has j = if j = index.toNat then b else s.has j := by
  have hi := lt_of_set_eq_ok h
  unfold set at h
  split at h
  · cases h
  · cases h
    unfold has
    cases b with
    | true =>
      simp only [↓reduceIte, BitVec.getLsbD_or, getLsbD_bit hi]
      by_cases hj : j = index.toNat <;> simp [hj]
    | false =>
      simp only [Bool.false_eq_true, ↓reduceIte, BitVec.getLsbD_and, BitVec.getLsbD_not,
        getLsbD_bit hi]
      by_cases hj : j = index.toNat
      · simp [hj]
      · by_cases hlt : j < 128
        · simp [hj, hlt]
        · rw [BitVec.getLsbD_of_ge s.bits j (by omega)]
          simp

@[simp] theorem has_empty (j : Nat) : empty.has j = false := BitVec.getLsbD_zero

theorem lt_of_has {s : IndexSet} {j : Nat} (h : s.has j = true) : j < 128 := by
  have hm : j ∈ s.toList := mem_toList.2 h
  simp only [toList, List.mem_filter, List.mem_range] at hm
  exact hm.1

theorem toNat_sharedCount (s t : IndexSet) : (s.sharedCount t).toNat = (s.inter t).size := by
  have h := size_le (s.inter t)
  rw [sharedCount, UInt8.toNat_ofNat', Nat.mod_eq_of_lt (by omega)]

theorem size_le_of_subset {s t : IndexSet} (h : ∀ i, s.has i = true → t.has i = true) :
    s.size ≤ t.size := by
  simp only [size, toList, ← List.countP_eq_length_filter]
  exact List.countP_mono_left fun i _ hi => h i hi

theorem ext_has {s t : IndexSet} (h : ∀ i, s.has i = t.has i) : s = t := by
  cases s
  cases t
  exact congrArg IndexSet.mk (BitVec.eq_of_getLsbD_eq fun i _ => h i)

theorem isEmpty_eq_true {s : IndexSet} :
    s.isEmpty = true ↔ ∀ index : UInt8, s.has index.toNat = false := by
  rw [isEmpty, beq_iff_eq]
  constructor
  · intro h index
    rw [has, h]
    exact BitVec.getLsbD_zero
  · intro h
    refine BitVec.eq_of_getLsbD_eq fun i hi => ?_
    have hindex := h (UInt8.ofNat i)
    rw [UInt8.toNat_ofNat', Nat.mod_eq_of_lt (by omega)] at hindex
    exact hindex.trans BitVec.getLsbD_zero.symm

/-- The set of one index. -/
def single (index : UInt8) : IndexSet := ⟨1#128 <<< index.toNat⟩

theorem has_single {index : UInt8} (h : index.toNat < 128) (j : Nat) :
    (single index).has j = decide (j = index.toNat) := getLsbD_bit h j

def union (s t : IndexSet) : IndexSet := ⟨s.bits ||| t.bits⟩

@[simp] theorem has_union (s t : IndexSet) (j : Nat) :
    (s.union t).has j = (s.has j || t.has j) := BitVec.getLsbD_or

theorem union_assoc (s t u : IndexSet) : (s.union t).union u = s.union (t.union u) :=
  ext_has fun i => by simp only [has_union, Bool.or_assoc]

theorem inter_self (s : IndexSet) : s.inter s = s :=
  ext_has fun i => by rw [has_inter, Bool.and_self]

theorem size_pos_iff {s : IndexSet} : 0 < s.size ↔ ∃ i, s.has i = true := by
  simp only [size, List.length_pos_iff_exists_mem, mem_toList]

theorem size_empty : empty.size = 0 := by
  refine Nat.eq_zero_of_not_pos fun h => ?_
  obtain ⟨i, hi⟩ := size_pos_iff.1 h
  rw [has_empty] at hi
  cases hi

theorem nodup_toList (s : IndexSet) : s.toList.Nodup := List.nodup_range.filter _

end IndexSet

end TokenBridge
