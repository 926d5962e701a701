import Mathlib.Algebra.Order.Ring.Nat
import TokenBridge.Proofs.Outcome

/-!
# Quotas over the naturals

What a quota can pay until a time `t` is its `potential`: what remained at its record and what
refills until then. Reading a quota never raises its potential, since rounding down twice
gives no more than rounding down once (`refill_add_le`). So each operation `Moves` a quota:
with what is taken out of it and what is given to it, the potential does not rise. A run
adds these inequalities up.
-/

namespace TokenBridge

namespace Quota

/-- What refills in `elapsed` seconds, if the limit does not stop it. -/
def refill (p : Period) (limit : UInt64) (elapsed : Nat) : Nat :=
  elapsed * limit.toNat / p.seconds.toNat

/-- What the quota can pay until the time `t`. -/
def potential (p : Period) (q : Quota) (t : Nat) : Nat :=
  q.remaining.toNat + refill p q.limit (t - q.asOf.toNat)

theorem refill_add_le (p : Period) (limit : UInt64) (a b : Nat) :
    refill p limit a + refill p limit b ≤ refill p limit (a + b) := by
  unfold refill
  rw [Nat.add_mul]
  exact Nat.div_add_div_le_add_div

theorem le_max (a b : UInt64) : a ≤ max a b ∧ b ≤ max a b := by
  rw [UInt64.le_iff_toNat_le, UInt64.le_iff_toNat_le, UInt64.toNat_max]
  exact ⟨Nat.le_max_left .., Nat.le_max_right ..⟩

/-- The product of two words is a wide word, and so is its quotient with a word added. -/
theorem toNat_wide_refill (r t l s : UInt64) :
    (Word.widen r + Word.widen t * Word.widen l / Word.widen s).toNat =
      r.toNat + t.toNat * l.toNat / s.toNat := by
  have hr := r.toNat_lt
  have ht := t.toNat_lt
  have hl := l.toNat_lt
  have hprod : t.toNat * l.toNat ≤ (2 ^ 64 - 1) * (2 ^ 64 - 1) :=
    Nat.mul_le_mul (by omega) (by omega)
  have hquot : t.toNat * l.toNat / s.toNat ≤ t.toNat * l.toNat := Nat.div_le_self ..
  rw [BitVec.toNat_add, BitVec.toNat_udiv, BitVec.toNat_mul, Word.toNat_widen, Word.toNat_widen,
    Word.toNat_widen, Word.toNat_widen, Nat.mod_eq_of_lt (a := t.toNat * l.toNat) (by omega),
    Nat.mod_eq_of_lt (by omega)]

theorem toNat_available {p : Period} (hp : p.seconds ≠ 0) (q : Quota) (now : UInt64) :
    (q.available p now).toNat =
      min (q.remaining.toNat + refill p q.limit (now.toNat - q.asOf.toNat)) q.limit.toNat := by
  have hl := q.limit.toNat_lt
  have htotal := toNat_wide_refill q.remaining (Word.subSat now q.asOf) q.limit p.seconds
  rw [Word.toNat_subSat] at htotal
  unfold available refill
  rw [if_neg hp]
  simp only [UInt64.toNat_ofBitVec, BitVec.toNat_setWidth, BitVec.le_def, htotal,
    Word.toNat_widen]
  split
  · rw [htotal, Nat.mod_eq_of_lt (by omega)]
    omega
  · rw [Word.toNat_widen, Nat.mod_eq_of_lt (by omega)]
    omega

theorem available_le_limit (p : Period) (q : Quota) (now : UInt64) :
    q.available p now ≤ q.limit := by
  by_cases hp : p.seconds = 0
  · unfold available
    rw [if_pos hp]
    exact UInt64.le_refl _
  · rw [UInt64.le_iff_toNat_le, toNat_available hp]
    exact Nat.min_le_right ..

/-- Reading a quota at a time up to `t` does not raise its potential. -/
theorem potential_recordAt_le {p : Period} (hp : p.seconds ≠ 0) {q : Quota} {now : UInt64}
    {t : Nat} (hq : q.asOf.toNat ≤ t) (hn : now.toNat ≤ t) {remaining : UInt64} {taken given : Nat}
    (h : remaining.toNat + taken ≤ (q.available p now).toNat + given) :
    (q.recordAt now remaining).potential p t + taken ≤ q.potential p t + given := by
  have havail := toNat_available hp q now
  have hsplit := refill_add_le p q.limit (now.toNat - q.asOf.toNat)
    (t - max now.toNat q.asOf.toNat)
  have htime : now.toNat - q.asOf.toNat + (t - max now.toNat q.asOf.toNat) = t - q.asOf.toNat := by
    omega
  rw [htime] at hsplit
  show remaining.toNat + refill p q.limit (t - (max now q.asOf).toNat) + taken ≤
    q.remaining.toNat + refill p q.limit (t - q.asOf.toNat) + given
  rw [UInt64.toNat_max]
  omega

/-- An operation up to the time `t` that takes an amount out of a quota and gives it another. -/
structure Moves (p : Period) (t : Nat) (q q' : Quota) (taken given : Nat) : Prop where
  limit : q'.limit = q.limit
  asOf : q'.asOf.toNat ≤ t
  potential : q'.potential p t + taken ≤ q.potential p t + given

variable {p : Period} {q q' : Quota} {now amount : UInt64} {t taken given : Nat}

theorem Moves.refl (hq : q.asOf.toNat ≤ t) : Moves p t q q 0 given :=
  ⟨rfl, hq, Nat.le_add_right ..⟩

theorem Moves.of_le (h : Moves p t q q' taken given) {less : Nat} (hle : less ≤ taken) :
    Moves p t q q' less given := by
  obtain ⟨hl, ha, hpot⟩ := h
  refine ⟨hl, ha, ?_⟩
  omega

theorem moves_recordAt (hp : p.seconds ≠ 0) (hq : q.asOf.toNat ≤ t) (hn : now.toNat ≤ t)
    {remaining : UInt64} (h : remaining.toNat + taken ≤ (q.available p now).toNat + given) :
    Moves p t q (q.recordAt now remaining) taken given := by
  refine ⟨rfl, ?_, potential_recordAt_le hp hq hn h⟩
  unfold recordAt
  rw [UInt64.toNat_max]
  omega

theorem spend_of_le (h : amount ≤ q.available p now) (onShortage : OnShortage) :
    q.spend p now amount onShortage =
      .ok (.spent (q.recordAt now (q.available p now - amount))) := if_pos h

theorem spend_eq_spent {onShortage : OnShortage}
    (h : q.spend p now amount onShortage = .ok (.spent q')) :
    amount.toNat ≤ (q.available p now).toNat ∧
      q' = q.recordAt now (q.available p now - amount) := by
  unfold spend at h
  by_cases hle : amount ≤ q.available p now
  · simp only [hle, ↓reduceIte] at h
    cases h
    exact ⟨UInt64.le_iff_toNat_le.1 hle, rfl⟩
  · simp only [hle, ↓reduceIte] at h
    cases onShortage with
    | refuse => cases h
    | queue =>
      cases hr : q.releaseTime p now amount <;> simp [hr, Functor.map, Except.map] at h

/-- A reading at `now` takes an amount out of a quota, or what there is of it. -/
structure Lowers (p : Period) (now amount : UInt64) (q q' : Quota) : Prop where
  limit : q'.limit = q.limit
  remaining : q'.remaining.toNat = (q.available p now).toNat - amount.toNat
  asOf : q'.asOf = max now q.asOf

theorem lowers_drain (p : Period) (q : Quota) (now amount : UInt64) :
    Lowers p now amount q (q.drain p now amount) := ⟨rfl, Word.toNat_subSat .., rfl⟩

theorem lowers_spend {onShortage : OnShortage}
    (h : q.spend p now amount onShortage = .ok (.spent q')) : Lowers p now amount q q' := by
  obtain ⟨hle, rfl⟩ := spend_eq_spent h
  exact ⟨rfl, UInt64.toNat_sub_of_le _ _ (UInt64.le_iff_toNat_le.2 hle), rfl⟩

theorem moves_spend (hp : p.seconds ≠ 0) (hq : q.asOf.toNat ≤ t) (hn : now.toNat ≤ t)
    {onShortage : OnShortage} (h : q.spend p now amount onShortage = .ok (.spent q')) :
    Moves p t q q' amount.toNat given := by
  obtain ⟨hle, rfl⟩ := spend_eq_spent h
  refine moves_recordAt hp hq hn ?_
  rw [UInt64.toNat_sub_of_le _ _ (UInt64.le_iff_toNat_le.2 hle)]
  omega

theorem moves_drain (hp : p.seconds ≠ 0) (hq : q.asOf.toNat ≤ t) (hn : now.toNat ≤ t)
    (amount : UInt64) : Moves p t q (q.drain p now amount) 0 given := by
  refine moves_recordAt hp hq hn ?_
  rw [Word.toNat_subSat]
  omega

theorem moves_refund (hp : p.seconds ≠ 0) (hq : q.asOf.toNat ≤ t) (hn : now.toNat ≤ t)
    (amount : UInt64) : Moves p t q (q.refund p now amount) 0 amount.toNat := by
  refine moves_recordAt hp hq hn ?_
  rw [UInt64.toNat_min, Word.toNat_addSat]
  omega

/-- A change to the limit that it already has. -/
theorem moves_resize (hp : p.seconds ≠ 0) (hq : q.asOf.toNat ≤ t) (hn : now.toNat ≤ t) :
    Moves p t q (q.resize p now q.limit) 0 given := by
  have hkeep : q.resize p now q.limit =
      q.recordAt now (min (Word.addSat (q.available p now) (q.limit - q.limit)) q.limit) := by
    unfold resize recordAt
    simp only [UInt64.lt_irrefl, ↓reduceIte]
  rw [hkeep]
  refine moves_recordAt hp hq hn ?_
  rw [UInt64.toNat_min, Word.toNat_addSat, UInt64.sub_self]
  have hzero : (0 : UInt64).toNat = 0 := rfl
  omega

end Quota

end TokenBridge
