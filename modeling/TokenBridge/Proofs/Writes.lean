import Mathlib.Data.List.Induction
import TokenBridge.Proofs.IndexSet

/-!
# Index sets under writes

A `Write` puts an index in or out, or is refused if the index belongs to no transceiver. After any
writes an index has the value that was written there last, or its bit at the start if there was
none (`has_after`), and what is refused may as well be left out (`after_filter`). Sizes and shared
counts are then counts of these values (`after_exact`).
-/

namespace TokenBridge

namespace IndexSet

structure Write where
  index : UInt8
  value : Bool
  deriving DecidableEq, Repr

/-- The set after a write. One that is refused leaves it as it is. -/
def write (s : IndexSet) (w : Write) : IndexSet :=
  match s.set w.index w.value with
  | .ok t => t
  | .error _ => s

/-- The set after some writes. -/
def after (s : IndexSet) (ws : List Write) : IndexSet := ws.foldl write s

/-- What was written last at an index. -/
def lastWritten? (ws : List Write) (j : Nat) : Option Bool :=
  (ws.filter (·.index.toNat = j)).getLast?.map Write.value

variable {s : IndexSet} {w : Write} {j : Nat}

/-! ## One write -/

theorem set_of_lt (s : IndexSet) (h : w.index.toNat < 128) :
    s.set w.index w.value = .ok (s.write w) := by
  obtain ⟨t, ht⟩ := exists_set s h w.value
  rw [write, ht]

theorem write_of_le (h : 128 ≤ w.index.toNat) : s.write w = s := by
  rw [write, set_eq_error.2 ⟨h, rfl⟩]

theorem has_write (hj : j < 128) :
    (s.write w).has j = if w.index.toNat = j then w.value else s.has j := by
  by_cases hlt : w.index.toNat < 128
  · simp only [has_set (set_of_lt s hlt), eq_comm]
  · rw [write_of_le (by omega), if_neg (by omega)]

/-! ## Many writes -/

theorem after_concat (s : IndexSet) (ws : List Write) (w : Write) :
    s.after (ws ++ [w]) = (s.after ws).write w := List.foldl_append ..

theorem lastWritten?_concat (ws : List Write) (w : Write) (j : Nat) :
    lastWritten? (ws ++ [w]) j =
      if w.index.toNat = j then some w.value else lastWritten? ws j := by
  unfold lastWritten?
  rw [List.filter_append]
  by_cases h : w.index.toNat = j <;> simp [h]

theorem has_after (s : IndexSet) (ws : List Write) (hj : j < 128) :
    (s.after ws).has j = (lastWritten? ws j).getD (s.has j) := by
  induction ws using List.reverseRecOn with
  | nil => rfl
  | append_singleton ws w ih =>
    rw [after_concat, has_write hj, lastWritten?_concat, ih]
    split <;> rfl

/-- Writes that are refused may as well be left out. -/
theorem after_filter (s : IndexSet) (ws : List Write) :
    s.after (ws.filter (·.index.toNat < 128)) = s.after ws := by
  induction ws using List.reverseRecOn with
  | nil => rfl
  | append_singleton ws w ih =>
    rw [List.filter_append, after_concat]
    by_cases h : w.index.toNat < 128
    · rw [List.filter_cons_of_pos (by simpa using h), List.filter_nil, after_concat, ih]
    · rw [List.filter_cons_of_neg (by simpa using h), List.filter_nil, List.append_nil, ih,
        write_of_le (Nat.not_lt.1 h)]

/-! ## Counts -/

theorem size_eq_countP (s : IndexSet) : s.size = (List.range 128).countP s.has :=
  List.countP_eq_length_filter.symm

theorem cpopNatRec_eq (x : Wide) (n k : Nat) :
    x.cpopNatRec n k = k + (List.range n).countP x.getLsbD := by
  induction n generalizing k with
  | zero => rfl
  | succ n ih =>
    rw [BitVec.cpopNatRec_succ, ih, List.range_succ, List.countP_append, List.countP_singleton,
      Nat.add_assoc, Nat.add_comm (List.countP ..)]
    cases x.getLsbD n <;> rfl

/-- The size is the number of ones in the word. -/
theorem size_eq_cpop (s : IndexSet) : s.size = s.bits.cpop.toNat := by
  rw [size_eq_countP, BitVec.toNat_cpop, cpopNatRec_eq, Nat.zero_add]
  rfl

theorem isEmpty_iff_forall_lt : s.isEmpty = true ↔ ∀ j < 128, s.has j = false := by
  rw [isEmpty_eq_true]
  constructor
  · intro h j hj
    have hindex := h (.ofNat j)
    rwa [UInt8.toNat_ofNat', Nat.mod_eq_of_lt (by omega)] at hindex
  · intro h index
    by_cases hj : index.toNat < 128
    · exact h _ hj
    · exact Bool.eq_false_iff.2 fun hhas => hj (lt_of_has hhas)

/-- **A set holds what was written last.** After any writes, an index below 128 is in the set if
`true` was written there last, or if nothing was and its bit was set at the start. The size, the
emptiness and the count of what is shared with another set are those of these indices. Any other
index is refused, and writing it changes nothing. -/
theorem after_exact (s : IndexSet) (ws : List Write) :
    let t := s.after ws
    let latest (j : Nat) : Bool := (lastWritten? ws j).getD (s.bits.getLsbD j)
    (∀ index : UInt8, t.get index =
      if index.toNat < 128 then .ok (latest index.toNat)
      else .error (.transceiverNotRegistered index)) ∧
    t.size = (List.range 128).countP latest ∧ t.size = t.bits.cpop.toNat ∧
    (t.isEmpty = true ↔ ∀ j < 128, latest j = false) ∧
    (∀ other, (t.sharedCount other).toNat =
      (List.range 128).countP fun j => latest j && other.bits.getLsbD j) ∧
    (∀ w : Write, w.index.toNat < 128 →
      t.set w.index w.value = .ok (s.after (ws ++ [w]))) ∧
    (∀ w : Write, 128 ≤ w.index.toNat →
      t.set w.index w.value = .error (.transceiverNotRegistered w.index) ∧
        s.after (ws ++ [w]) = t) ∧
    s.after (ws.filter (·.index.toNat < 128)) = t := by
  intro t latest
  have hlatest (j : Nat) (hj : j < 128) : t.has j = latest j := has_after s ws hj
  have hcount (p : Nat → Bool) : (List.range 128).countP (fun j => t.has j && p j) =
      (List.range 128).countP fun j => latest j && p j :=
    List.countP_congr fun j hj => by rw [hlatest j (List.mem_range.1 hj)]
  refine ⟨fun index => ?_, ?_, size_eq_cpop t, ?_, fun other => ?_, fun w hlt => ?_,
    fun w hle => ⟨set_eq_error.2 ⟨hle, rfl⟩, ?_⟩, after_filter s ws⟩
  · split
    · rename_i hlt
      exact get_eq_ok.2 ⟨hlt, hlatest _ hlt⟩
    · rename_i hge
      exact get_eq_error.2 ⟨Nat.not_lt.1 hge, rfl⟩
  · rw [size_eq_countP]
    simpa using hcount fun _ => true
  · rw [isEmpty_iff_forall_lt]
    exact forall₂_congr fun j hj => by rw [hlatest j hj]
  · rw [toNat_sharedCount, size_eq_countP, ← hcount]
    exact congrArg (List.countP · _) (funext fun j => has_inter ..)
  · rw [after_concat]
    exact set_of_lt t hlt
  · rw [after_concat, write_of_le hle]

/-- The last index goes out and comes back, the first one goes out, and there is no index 200. -/
theorem after_exact_sample :
    let ws : List Write := [⟨127, false⟩, ⟨0, false⟩, ⟨200, true⟩, ⟨127, true⟩]
    let t := full.after ws
    t.size = 127 ∧ t.get 127 = .ok true ∧ t.get 0 = .ok false ∧ full.sharedCount t = 127 ∧
      t.set 0 true = .ok (full.after (ws ++ [⟨0, true⟩])) ∧ full.after (ws ++ [⟨0, true⟩]) = full ∧
      t.set 200 true = .error (.transceiverNotRegistered 200) ∧
      full.after (ws ++ [⟨200, true⟩]) = t := by
  intro ws t
  obtain ⟨-, -, -, -, -, hset, hrefused, -⟩ := after_exact full ws
  obtain ⟨herror, hsame⟩ := hrefused ⟨200, true⟩ (by decide)
  exact ⟨by decide +kernel, by decide +kernel, by decide +kernel, by decide +kernel,
    hset ⟨0, true⟩ (by decide), by decide +kernel, herror, hsame⟩

end IndexSet

end TokenBridge
