import TokenBridge.Proofs.Waiting

/-!
# Waits and refills

A wait is rounded up and a refill is rounded down, and the two fit together: an amount has refilled
once its wait is over, and not before (`wait_le_iff`). A release time counts the wait from the time
of the reading, though, while the quota refills from its record. If the record is the older one,
what had refilled by the reading is rounded down once more, so the amount fits at the release time
and may fit a little earlier, by no more than it takes to refill one unit. If the reading is the
older one, the quota has had less time than the wait, and the amount does not fit
(`fits_at_releaseTime_iff`).
-/

namespace TokenBridge

theorem Word.toNat_pos {n : UInt64} (h : n ≠ 0) : 0 < n.toNat :=
  UInt64.lt_iff_toNat_lt.1 (UInt64.pos_iff_ne_zero.2 h)

namespace Quota

variable {p : Period} {q : Quota} {limit now amount t u : UInt64}

/-- An amount has refilled just when its wait is over. -/
theorem wait_le_iff (hp : p.seconds ≠ 0) (hl : limit ≠ 0) {missing elapsed : Nat} :
    wait p limit missing ≤ elapsed ↔ missing ≤ refill p limit elapsed := by
  have hlimit := Word.toNat_pos hl
  unfold wait refill
  rw [Nat.le_div_iff_mul_le (Word.toNat_pos hp), Nat.div_le_iff_le_mul_add_pred hlimit,
    Nat.mul_comm limit.toNat elapsed]
  omega

theorem refill_lt_of_lt_wait (hp : p.seconds ≠ 0) (hl : limit ≠ 0) {missing elapsed : Nat}
    (h : elapsed < wait p limit missing) : refill p limit elapsed < missing := by
  have hnot := mt (wait_le_iff hp hl).2 (Nat.not_le.2 h)
  omega

@[simp] theorem refill_zero (p : Period) (limit : UInt64) : refill p limit 0 = 0 := by
  rw [refill, Nat.zero_mul, Nat.zero_div]

/-- What is missing is waited for. -/
theorem wait_pos (hp : p.seconds ≠ 0) (hl : limit ≠ 0) {missing : Nat} (h : 0 < missing) :
    0 < wait p limit missing := by
  rw [Nat.pos_iff_ne_zero]
  intro hzero
  have hnone := (wait_le_iff hp hl).1 (Nat.le_of_eq hzero)
  rw [refill_zero] at hnone
  omega

/-- Rounding down twice loses no more than one unit. -/
theorem refill_add_le_succ (hp : p.seconds ≠ 0) (limit : UInt64) (a b : Nat) :
    refill p limit (a + b) ≤ refill p limit a + refill p limit b + 1 := by
  unfold refill
  rw [Nat.add_mul, Nat.add_div (Word.toNat_pos hp)]
  split <;> omega

/-- Below the limit, a quota has what remained at its record and what has refilled since. -/
theorem le_available_iff (hp : p.seconds ≠ 0) (hle : amount ≤ q.limit) :
    amount ≤ q.available p u ↔
      amount.toNat ≤ q.remaining.toNat + refill p q.limit (u.toNat - q.asOf.toNat) := by
  rw [UInt64.le_iff_toNat_le] at hle ⊢
  rw [toNat_available hp]
  omega

/-- What is missing at the reading, and the wait for it. -/
theorem exists_missing (hp : p.seconds ≠ 0) (hlt : q.available p now < amount)
    (hle : amount ≤ q.limit) (h : q.releaseTime p now amount = .ok t) :
    ∃ missing, 0 < missing ∧ q.limit ≠ 0 ∧ t.toNat = now.toNat + wait p q.limit missing ∧
      amount.toNat =
        q.remaining.toNat + refill p q.limit (now.toNat - q.asOf.toNat) + missing := by
  have hlt' := UInt64.lt_iff_toNat_lt.1 hlt
  have hle' := UInt64.le_iff_toNat_le.1 hle
  have havail := toNat_available hp q now
  obtain ⟨hl, ht⟩ := (releaseTime_eq_ok hlt').1 h
  exact ⟨_, by omega, hl, ht, by omega⟩

theorem lt_releaseTime (hp : p.seconds ≠ 0) (hlt : q.available p now < amount)
    (hle : amount ≤ q.limit) (h : q.releaseTime p now amount = .ok t) : now < t := by
  obtain ⟨missing, hpos, hl, ht, -⟩ := exists_missing hp hlt hle h
  have hwait := wait_pos hp hl hpos
  rw [UInt64.lt_iff_toNat_lt]
  omega

/-- From a reading that was not after the record, the amount does not fit until the record is as
old as the wait is long. -/
theorem available_lt_of_le_asOf (hp : p.seconds ≠ 0) (hq : now ≤ q.asOf)
    (hlt : q.available p now < amount) (hle : amount ≤ q.limit)
    (h : q.releaseTime p now amount = .ok t)
    (hu : u.toNat - q.asOf.toNat + now.toNat < t.toNat) : q.available p u < amount := by
  obtain ⟨missing, -, hl, ht, hamount⟩ := exists_missing hp hlt hle h
  rw [UInt64.le_iff_toNat_le] at hq
  rw [← UInt64.not_le, le_available_iff hp hle]
  have hless : refill p q.limit (u.toNat - q.asOf.toNat) < missing :=
    refill_lt_of_lt_wait hp hl (by omega)
  -- nothing had refilled by the reading
  rw [Nat.sub_eq_zero_of_le hq, refill_zero] at hamount
  omega

/-- An amount fits at its release time unless the reading was older than the record. -/
theorem fits_at_releaseTime_iff (hp : p.seconds ≠ 0) (hlt : q.available p now < amount)
    (hle : amount ≤ q.limit) (h : q.releaseTime p now amount = .ok t) :
    amount ≤ q.available p t ↔ q.asOf ≤ now := by
  have hlater := UInt64.lt_iff_toNat_lt.1 (lt_releaseTime hp hlt hle h)
  constructor
  · -- from the record to the release time is less than the wait
    intro hfits
    rw [← UInt64.not_lt] at hfits ⊢
    refine fun hq => hfits ?_
    have hq' := UInt64.lt_iff_toNat_lt.1 hq
    exact available_lt_of_le_asOf hp (UInt64.le_of_lt hq) hlt hle h (by omega)
  · intro hq
    obtain ⟨missing, -, hl, ht, hamount⟩ := exists_missing hp hlt hle h
    rw [UInt64.le_iff_toNat_le] at hq
    rw [le_available_iff hp hle]
    have hmissing : missing ≤ refill p q.limit (wait p q.limit missing) :=
      (wait_le_iff hp hl).1 (Nat.le_refl _)
    have hsum := refill_add_le p q.limit (now.toNat - q.asOf.toNat) (wait p q.limit missing)
    have htime : t.toNat - q.asOf.toNat =
        now.toNat - q.asOf.toNat + wait p q.limit missing := by omega
    rw [htime]
    omega

/-- Before its release time an amount does not fit, up to the time in which one unit refills. -/
theorem available_lt_of_early (hp : p.seconds ≠ 0) (hq : q.asOf ≤ now)
    (hlt : q.available p now < amount) (hle : amount ≤ q.limit)
    (h : q.releaseTime p now amount = .ok t) (hu : now ≤ u)
    (hearly : u.toNat + wait p q.limit 1 < t.toNat) : q.available p u < amount := by
  obtain ⟨missing, -, hl, ht, hamount⟩ := exists_missing hp hlt hle h
  rw [UInt64.le_iff_toNat_le] at hq hu
  rw [← UInt64.not_le, le_available_iff hp hle]
  -- one unit is kept back for the second rounding
  have hunit : 1 ≤ refill p q.limit (wait p q.limit 1) := (wait_le_iff hp hl).1 (Nat.le_refl _)
  have hsum := refill_add_le p q.limit (u.toNat - now.toNat) (wait p q.limit 1)
  have hless : refill p q.limit (u.toNat - now.toNat + wait p q.limit 1) < missing :=
    refill_lt_of_lt_wait hp hl (by omega)
  have hround := refill_add_le_succ hp q.limit (now.toNat - q.asOf.toNat) (u.toNat - now.toNat)
  have htime : now.toNat - q.asOf.toNat + (u.toNat - now.toNat) = u.toNat - q.asOf.toNat := by
    omega
  rw [htime] at hround
  omega

/-- **A release time is late enough, and hardly too late.** The amount fits at its release time, and
does not fit as long as more time is left than it takes to refill one unit. If the reading was at
the time of the record, the release time is the first at which the amount fits. -/
theorem releaseTime_tight (hp : p.seconds ≠ 0) (hq : q.asOf ≤ now)
    (hlt : q.available p now < amount) (hle : amount ≤ q.limit)
    (h : q.releaseTime p now amount = .ok t) :
    now < t ∧ amount ≤ q.available p t ∧
    (∀ u, now ≤ u → u.toNat + wait p q.limit 1 < t.toNat → q.available p u < amount) ∧
    (now = q.asOf → ∀ u, now ≤ u → u < t → q.available p u < amount) := by
  have hfits := (fits_at_releaseTime_iff hp hlt hle h).2 hq
  refine ⟨lt_releaseTime hp hlt hle h, hfits,
    fun u hu hearly => available_lt_of_early hp hq hlt hle h hu hearly, fun hnow u hu hut => ?_⟩
  subst hnow
  rw [UInt64.le_iff_toNat_le] at hu
  rw [UInt64.lt_iff_toNat_lt] at hut
  exact available_lt_of_le_asOf hp (UInt64.le_refl _) hlt hle h (by omega)

/-- In 50 seconds no unit refills, and they are waited for once more: the amount fits 50 seconds
before its release time, which is less than the 87 seconds of one unit. At the time of the record
nothing is lost. -/
theorem releaseTime_tight_sample :
    let q : Quota := ⟨1000, 300, 0⟩
    wait .day q.limit 1 = 87 ∧ 500 ≤ q.available .day 17280 ∧
    (q.releaseTime .day 50 500 = .ok 17330 ∧ (50 : UInt64) < 17330 ∧
      500 ≤ q.available .day 17330 ∧
      ∀ u : UInt64, 50 ≤ u → u.toNat + wait .day q.limit 1 < 17330 → q.available .day u < 500) ∧
    (q.releaseTime .day 0 500 = .ok 17280 ∧ 500 ≤ q.available .day 17280 ∧
      ∀ u : UInt64, 0 ≤ u → u < 17280 → q.available .day u < 500) := by
  intro q
  have hlater : q.releaseTime .day 50 500 = .ok 17330 := by decide
  have hatRecord : q.releaseTime .day 0 500 = .ok 17280 := by decide
  have later := releaseTime_tight (by decide) (by decide) (by decide) (by decide) hlater
  have atRecord := releaseTime_tight (by decide) (by decide) (by decide) (by decide) hatRecord
  exact ⟨by decide, by decide, ⟨hlater, later.1, later.2.1, later.2.2.1⟩,
    ⟨hatRecord, atRecord.2.1, atRecord.2.2.2 rfl⟩⟩

end Quota

end TokenBridge
