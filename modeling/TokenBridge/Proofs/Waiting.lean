import TokenBridge.Proofs.Quota

/-!
# Waiting for a quota

An amount that a quota cannot bear yet waits until what is missing has refilled, as if the
quota could overfill. The time is computed at 128 bits, where no product of two words is too
large, so `releaseTime_eq_ok` gives it over the naturals. There is none if nothing refills, or
if time is over by then (`NeverFits`).
-/

namespace TokenBridge

namespace Wide

/-- The product of two words is a wide word. -/
theorem mul?_widen (a b : UInt64) :
    ∃ w, mul? (Word.widen a) (Word.widen b) = some w ∧ w.toNat = a.toNat * b.toNat := by
  have ha := a.toNat_lt
  have hb := b.toNat_lt
  have hprod : a.toNat * b.toNat ≤ (2 ^ 64 - 1) * (2 ^ 64 - 1) :=
    Nat.mul_le_mul (by omega) (by omega)
  have hsize : size = 2 ^ 128 := rfl
  unfold mul?
  rw [Word.toNat_widen, Word.toNat_widen, if_pos (by omega)]
  refine ⟨_, rfl, ?_⟩
  rw [BitVec.toNat_mul, Word.toNat_widen, Word.toNat_widen, Nat.mod_eq_of_lt (by omega)]

theorem toNat_divCeil (a : Wide) {b : Wide} (hb : 0 < b.toNat) :
    (divCeil a b).toNat = (a.toNat + b.toNat - 1) / b.toNat := by
  have ha := a.isLt
  have hdiv := Nat.div_add_mod' a.toNat b.toNat
  have hrem := Nat.mod_lt a.toNat hb
  have hmod : a % b = 0 ↔ a.toNat % b.toNat = 0 := by
    rw [← BitVec.toNat_inj, BitVec.toNat_umod]
    rfl
  symm
  unfold divCeil
  split
  · rename_i h
    rw [BitVec.toNat_udiv]
    rw [hmod] at h
    exact Nat.div_eq_of_lt_le (by omega) (by rw [Nat.add_mul]; omega)
  · rename_i h
    rw [hmod] at h
    -- the quotient is at most half of `a`, and so there is room for one more
    have htwo : a.toNat / b.toNat * 2 ≤ a.toNat / b.toNat * b.toNat :=
      Nat.mul_le_mul_left _ (by omega)
    rw [BitVec.toNat_add, BitVec.toNat_udiv, show (1 : Wide).toNat = 1 from rfl,
      Nat.mod_eq_of_lt (by omega)]
    exact Nat.div_eq_of_lt_le (by rw [Nat.add_mul]; omega) (by rw [Nat.add_mul, Nat.add_mul]; omega)

end Wide

namespace Quota

variable {p : Period} {q : Quota} {now amount t : UInt64}

/-- The seconds in which `missing` refills, rounded up. -/
def wait (p : Period) (limit : UInt64) (missing : Nat) : Nat :=
  (missing * p.seconds.toNat + limit.toNat - 1) / limit.toNat

/-- An amount that does not fit yet fits when what is missing has refilled. -/
theorem releaseTime_eq_ok (hlt : (q.available p now).toNat < amount.toNat) :
    q.releaseTime p now amount = .ok t ↔ q.limit ≠ 0 ∧
      t.toNat = now.toNat + wait p q.limit (amount.toNat - (q.available p now).toNat) := by
  have hle : ¬ amount ≤ q.available p now := by
    rw [UInt64.le_iff_toNat_le]
    omega
  unfold releaseTime
  simp only [hle, ↓reduceIte]
  by_cases hzero : q.limit = 0
  · simp [hzero]
  have hpos : 0 < (Word.widen q.limit).toNat := by
    rw [Word.toNat_widen]
    exact Nat.pos_of_ne_zero fun h => hzero (UInt64.toNat_inj.1 h)
  obtain ⟨needed, hneeded, hvalue⟩ := Wide.mul?_widen (amount - q.available p now) p.seconds
  rw [UInt64.toNat_sub_of_le _ _ (UInt64.le_iff_toNat_le.2 (Nat.le_of_lt hlt))] at hvalue
  have hwait := Wide.toNat_divCeil needed hpos
  rw [hvalue, Word.toNat_widen] at hwait
  simp only [hzero, hneeded, ↓reduceIte, Option.bind_eq_bind, Option.bind_some, ne_eq,
    not_false_eq_true, true_and]
  split
  · rename_i time htime
    obtain ⟨w, hw, hsum⟩ := Option.bind_eq_some_iff.1 htime
    rw [Wide.narrow?_eq_some, hwait] at hw
    rw [Word.add?_eq_some, hw] at hsum
    rw [Except.ok.injEq, ← UInt64.toNat_inj, hsum]
    exact eq_comm
  · rename_i hnone
    refine ⟨nofun, fun ht => ?_⟩
    -- a wait that ends in time is a word
    have hend : t.toNat < UInt64.size := t.toNat_lt
    obtain ⟨w, hw⟩ : ∃ w : UInt64,
        w.toNat = wait p q.limit (amount.toNat - (q.available p now).toNat) :=
      ⟨.ofNat _, UInt64.toNat_ofNat_of_lt' (by omega)⟩
    have hsome : (Wide.narrow? (Wide.divCeil needed (Word.widen q.limit))).bind (Word.add? now) =
        some t :=
      Option.bind_eq_some_iff.2 ⟨w, Wide.narrow?_eq_some.2 (hw.trans hwait.symm),
        Word.add?_eq_some.2 (by rw [ht, hw])⟩
    cases hnone.symm.trans hsome

/-- No time can be given for the amount: the quota refills nothing, or time is over by then. -/
def NeverFits (p : Period) (q : Quota) (now amount : UInt64) : Prop :=
  (q.available p now).toNat < amount.toNat ∧
    (q.limit = 0 ∨
      UInt64.size ≤ now.toNat + wait p q.limit (amount.toNat - (q.available p now).toNat))

instance (p : Period) (q : Quota) (now amount : UInt64) : Decidable (q.NeverFits p now amount) :=
  inferInstanceAs (Decidable (_ ∧ _))

theorem exists_releaseTime_iff (hlt : (q.available p now).toNat < amount.toNat) :
    (∃ t, q.releaseTime p now amount = .ok t) ↔ ¬ q.NeverFits p now amount := by
  simp only [releaseTime_eq_ok hlt, NeverFits, hlt, true_and, not_or, Nat.not_le]
  constructor
  · rintro ⟨t, hlimit, ht⟩
    exact ⟨hlimit, ht ▸ t.toNat_lt⟩
  · rintro ⟨hlimit, hsmall⟩
    exact ⟨.ofNat _, hlimit, UInt64.toNat_ofNat_of_lt' hsmall⟩

/-- Why there is no release time: nothing refills, or it lies beyond the end of time. -/
theorem releaseTime_eq_error {err : Error} (h : q.releaseTime p now amount = .error err) :
    if q.limit = 0 then err = .rateLimitExceeded amount (q.available p now)
    else err = .overflow "queue release time" := by
  simp only [releaseTime] at h
  split at h
  · cases h
  · split at h
    · rw [if_pos ‹_›]
      cases h
      rfl
    · rw [if_neg ‹_›]
      split at h
      · cases h
      · cases h
        rfl

/-- A spending that does not fit waits for its release time, if it may. -/
theorem spend_eq_queued {onShortage : OnShortage} :
    q.spend p now amount onShortage = .ok (.queued t) ↔
      q.available p now < amount ∧ onShortage = .queue ∧ q.releaseTime p now amount = .ok t := by
  unfold spend
  rw [← UInt64.not_le]
  by_cases hle : amount ≤ q.available p now
  · simp [hle]
  · simp only [hle, ↓reduceIte, not_false_eq_true, true_and]
    cases onShortage with
    | refuse => simp
    | queue => simp [map_eq_ok]

theorem spend_eq_error {onShortage : OnShortage} {err : Error} :
    q.spend p now amount onShortage = .error err ↔ q.available p now < amount ∧
      match onShortage with
      | .refuse => err = .rateLimitExceeded amount (q.available p now)
      | .queue => q.releaseTime p now amount = .error err := by
  unfold spend
  rw [← UInt64.not_le]
  by_cases hle : amount ≤ q.available p now
  · simp [hle]
  · simp only [hle, ↓reduceIte, not_false_eq_true, true_and]
    cases onShortage with
    | refuse => simp [eq_comm]
    | queue => cases q.releaseTime p now amount <;> simp [Functor.map, Except.map]

/-- A quota counts in one unit only. -/
theorem spend_ne_scaling {onShortage : OnShortage} {fault : ScalingFault} :
    q.spend p now amount onShortage ≠ .error (.scaling fault) := by
  intro h
  obtain ⟨-, h⟩ := spend_eq_error.1 h
  cases onShortage with
  | refuse => cases h
  | queue =>
    have herr := releaseTime_eq_error h
    split at herr <;> cases herr

/-- A spending that may wait fails only if the wait has no end. -/
theorem spend_queue_eq_error :
    (∃ err, q.spend p now amount .queue = .error err) ↔ q.NeverFits p now amount := by
  simp only [spend_eq_error, exists_and_left]
  by_cases hlt : q.available p now < amount
  · have hlt' := UInt64.lt_iff_toNat_lt.1 hlt
    rw [← not_iff_not, ← exists_releaseTime_iff hlt']
    cases q.releaseTime p now amount <;> simp [hlt]
  · refine iff_of_false (fun h => hlt h.1) fun h => ?_
    exact hlt (UInt64.lt_iff_toNat_lt.2 h.1)

end Quota

end TokenBridge
