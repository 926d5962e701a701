import TokenBridge.Proofs.Refill

/-!
# Checkpoints of a quota

An operation on a quota writes down what is available at its time, even if it spends nothing and
gives nothing. Such a `Checkpoint` ends a stretch of refill: what has not become a whole unit by then
is dropped, where a reading without it would round the whole time down once. So a checkpoint costs a
later reading at most one unit (`available_recordAt_available`), and a run of them at most one unit
each (`checkpoints_cost_one_each`).
-/

namespace TokenBridge

namespace Quota

/-- An operation that spends nothing, gives nothing and keeps the limit. -/
inductive IdleOperation where
  | spend (onShortage : OnShortage)
  | drain
  | refund
  | resize
  deriving DecidableEq, Repr

structure Checkpoint where
  operation : IdleOperation
  now : UInt64
  deriving DecidableEq, Repr

/-- The record that an idle operation leaves behind. -/
def Checkpoint.apply (p : Period) (q : Quota) (c : Checkpoint) : Except Error Quota :=
  match c.operation with
  | .spend onShortage => do
    match ← q.spend p c.now 0 onShortage with
    | .spent next => return next
    | .queued _ => return q
  | .drain => return q.drain p c.now 0
  | .refund => return q.refund p c.now 0
  | .resize => return q.resize p c.now q.limit

variable {p : Period} {q : Quota} {now u : UInt64}

theorem min_addSat_zero {capacity limit : UInt64} (h : capacity ≤ limit) :
    min (Word.addSat capacity 0) limit = capacity := by
  have hle := UInt64.le_iff_toNat_le.1 h
  have hlimit : limit.toNat < UInt64.size := limit.toNat_lt
  have hzero : (0 : UInt64).toNat = 0 := rfl
  rw [← UInt64.toNat_inj, UInt64.toNat_min, Word.toNat_addSat]
  omega

/-- Whichever idle operation it is, it records what is available. -/
theorem Checkpoint.apply_eq (p : Period) (q : Quota) (c : Checkpoint) :
    c.apply p q = .ok (q.recordAt c.now (q.available p c.now)) := by
  obtain ⟨operation, now⟩ := c
  have hlimit := available_le_limit p q now
  cases operation with
  | spend onShortage =>
    simp only [apply, spend_of_le UInt64.zero_le, UInt64.sub_zero]
    rfl
  | drain =>
    have hkeeps : Word.subSat (q.available p now) 0 = q.available p now := by
      rw [← UInt64.toNat_inj, Word.toNat_subSat]
      exact Nat.sub_zero _
    simp only [apply, drain, hkeeps]
    rfl
  | refund =>
    simp only [apply, refund, min_addSat_zero hlimit]
    rfl
  | resize =>
    simp only [apply, resize, UInt64.lt_irrefl, ↓reduceIte, UInt64.sub_self, min_addSat_zero hlimit]
    rfl

/-- A checkpoint gives a later reading nothing, and costs it at most one unit. -/
theorem available_recordAt_available (p : Period) (q : Quota) (h : now ≤ u) :
    (q.recordAt now (q.available p now)).available p u ≤ q.available p u ∧
      (q.available p u).toNat ≤
        ((q.recordAt now (q.available p now)).available p u).toNat + 1 := by
  by_cases hp : p.seconds = 0
  · simp [available, hp, recordAt]
  have hafter := toNat_available hp (q.recordAt now (q.available p now)) u
  simp only [recordAt, UInt64.toNat_max, toNat_available hp q now] at hafter
  rw [UInt64.le_iff_toNat_le] at h ⊢
  rw [toNat_available hp q u]
  -- the time since the old record is that till the checkpoint and that from there
  have htime : u.toNat - q.asOf.toNat =
      now.toNat - q.asOf.toNat + (u.toNat - max now.toNat q.asOf.toNat) := by omega
  have hless := refill_add_le p q.limit (now.toNat - q.asOf.toNat)
    (u.toNat - max now.toNat q.asOf.toNat)
  have hmore := refill_add_le_succ hp q.limit (now.toNat - q.asOf.toNat)
    (u.toNat - max now.toNat q.asOf.toNat)
  rw [← htime] at hless hmore
  unfold recordAt
  omega

/-- **Checkpoints cost at most one unit each.** A run of idle operations succeeds, and a reading that
is not before any of them finds no more than without them, and less by no more than one unit for each.
The quota need not be within its limit before. -/
theorem checkpoints_cost_one_each (p : Period) (q : Quota) {cs : List Checkpoint}
    (h : ∀ c ∈ cs, c.now ≤ u) :
    ∃ q', cs.foldlM (Checkpoint.apply p) q = .ok q' ∧ q'.available p u ≤ q.available p u ∧
      (q.available p u).toNat ≤ (q'.available p u).toNat + cs.length := by
  induction cs generalizing q with
  | nil => exact ⟨q, rfl, UInt64.le_refl _, Nat.le_refl _⟩
  | cons c cs ih =>
    obtain ⟨hle, hcost⟩ := available_recordAt_available p q (h c List.mem_cons_self)
    obtain ⟨q', hrun, hle', hcost'⟩ :=
      ih (q.recordAt c.now (q.available p c.now)) fun d hd => h d (List.mem_cons_of_mem c hd)
    refine ⟨q', ?_, UInt64.le_trans hle' hle, ?_⟩
    · rw [List.foldlM_cons, Checkpoint.apply_eq]
      exact hrun
    · rw [List.length_cons]
      omega

/-- Four units refill in five seconds, and none of them in one: four checkpoints cost four units. -/
theorem checkpoints_cost_one_each_sample :
    let p : Period := ⟨5⟩
    let q : Quota := ⟨4, 0, 0⟩
    let cs : List Checkpoint := [⟨.spend .refuse, 1⟩, ⟨.drain, 2⟩, ⟨.refund, 3⟩, ⟨.resize, 4⟩]
    (∀ c ∈ cs, c.now ≤ 5) ∧ q.available p 5 = 4 ∧
      ∃ q', cs.foldlM (Checkpoint.apply p) q = .ok q' ∧ q'.available p 5 = 0 ∧
        q'.available p 5 ≤ q.available p 5 ∧
        (q.available p 5).toNat ≤ (q'.available p 5).toNat + cs.length := by
  intro p q cs
  have htimes : ∀ c ∈ cs, c.now ≤ 5 := by decide
  obtain ⟨q', hrun, hle, hcost⟩ := checkpoints_cost_one_each p q htimes
  have hend : cs.foldlM (Checkpoint.apply p) q = .ok ⟨4, 0, 4⟩ := by decide
  cases hrun.symm.trans hend
  exact ⟨htimes, by decide, _, hend, by decide, hle, hcost⟩

end Quota

end TokenBridge
