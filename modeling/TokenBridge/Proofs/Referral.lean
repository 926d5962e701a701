import TokenBridge.Proofs.Amount
import TokenBridge.Proofs.Waiting
import TokenBridge.Relay.Fee

/-!
# What a referrer takes

A fee is a share of the amount, rounded down (`feeUnits`), but only the digits of it that both
chains can count are kept back (`Amount.rounded`); the rest goes on to the recipient. A rate is a
word of 16 bits, so the share is less than the amount, and neither the product nor the difference
leaves its word. `referrerFee_eq` has no case for them: what can fail is the rate, the trimming, or
an amount of which nothing could be left.
-/

namespace TokenBridge

/-! ## The share -/

/-- The part of an amount that a rate takes. -/
def feeUnits (amount : UInt64) (rate : Nat) : Nat := amount.toNat * rate / 100000

section
variable {amount : UInt64} {n : Nat}

theorem feeUnits_le (h : n ≤ 100000) : feeUnits amount n ≤ amount.toNat := by
  refine Nat.div_le_of_le_mul ?_
  rw [Nat.mul_comm]
  exact Nat.mul_le_mul_right _ h

theorem feeUnits_lt (h : n < 100000) (hpos : 0 < amount.toNat) :
    feeUnits amount n < amount.toNat := by
  rw [feeUnits, Nat.div_lt_iff_lt_mul (by decide)]
  exact Nat.mul_lt_mul_of_pos_left h hpos

/-- Nothing remains only of nothing. -/
theorem remaining_eq_zero_iff (amount : UInt64) (h : n < 100000) (digits : Nat) :
    UInt64.ofNat (amount.toNat - Amount.rounded (feeUnits amount n) digits) = 0 ↔ amount = 0 := by
  have hlt : amount.toNat - Amount.rounded (feeUnits amount n) digits < UInt64.size :=
    Nat.lt_of_le_of_lt (Nat.sub_le ..) amount.toNat_lt
  have hle := Amount.rounded_le (feeUnits amount n) digits
  rw [← UInt64.toNat_inj, ← UInt64.toNat_inj, UInt64.toNat_ofNat_of_lt' hlt]
  show amount.toNat - Amount.rounded (feeUnits amount n) digits = 0 ↔ amount.toNat = 0
  rcases Nat.eq_zero_or_pos amount.toNat with hzero | hpos
  · omega
  · have := feeUnits_lt h hpos
    omega

end

/-- A share is found for each amount and rate: their product is a wide word. -/
theorem exists_feeShare (amount : UInt64) (rate : UInt16) : ∃ fee : UInt64,
    feeShare amount rate = .ok fee ∧ fee.toNat = feeUnits amount rate.toNat := by
  obtain ⟨product, hproduct, hvalue⟩ := Wide.mul?_widen amount rate.toUInt64
  rw [UInt16.toNat_toUInt64] at hvalue
  have hamount := amount.toNat_lt
  have hrate := rate.toNat_lt
  have hle : product.toNat / 100000 ≤ amount.toNat := by
    rw [hvalue]
    exact feeUnits_le (by omega)
  unfold feeShare
  rw [hproduct]
  refine ⟨_, rfl, ?_⟩
  rw [UInt64.toNat_ofBitVec, BitVec.toNat_setWidth, BitVec.toNat_udiv,
    show feeDenominator.toNat = 100000 from rfl, Nat.mod_eq_of_lt (by omega), hvalue, feeUnits]

/-! ## The fee -/

/-- What is kept back is never more than the amount. -/
theorem deductFee_eq (amount : UInt64) (source : UInt8) (rate : UInt16) (destination cap : UInt8) :
    deductFee amount source rate destination cap =
      if rate ≠ 0 ∧ 19 < Amount.lostDigits source destination cap then .error (.scaling .exponent)
      else .ok (.ofNat (feeUnits amount rate.toNat), .ofNat (amount.toNat -
        Amount.rounded (feeUnits amount rate.toNat) (Amount.lostDigits source destination cap))) := by
  unfold deductFee
  by_cases hzero : rate = 0
  · subst hzero
    simp [feeUnits, Amount.rounded, pure, Except.pure]
  have hrate := rate.toNat_lt
  obtain ⟨fee, hfee, hvalue⟩ := exists_feeShare amount rate
  by_cases hmany : 19 < Amount.lostDigits source destination cap
  · have htrim : Amount.trim fee source destination cap = .error .exponent :=
      Amount.trim_eq_error.2 ⟨by rwa [Amount.sub_sharedDecimals], rfl⟩
    rw [if_neg hzero, if_pos ⟨hzero, hmany⟩, hfee]
    show (scaled (Amount.trim fee source destination cap) >>= _) = _
    rw [htrim]
    rfl
  · obtain ⟨a, kept, htrim, hkept, hrounded⟩ := Amount.exists_kept fee (Nat.not_lt.1 hmany)
    rw [hvalue] at hrounded
    have hle : kept ≤ amount := by
      rw [UInt64.le_iff_toNat_le, hrounded]
      exact (Amount.rounded_le ..).trans (feeUnits_le (by omega))
    have hremaining := UInt64.toNat_sub_of_le _ _ hle
    rw [if_neg hzero, if_neg (fun h => hmany h.2), ← hrounded, ← hremaining, ← hvalue,
      UInt64.ofNat_toNat, UInt64.ofNat_toNat, hfee]
    show (scaled (Amount.trim fee source destination cap) >>= _) = _
    rw [htrim]
    show (scaled (a.untrim source) >>= _) = _
    rw [hkept]
    exact if_neg (UInt64.not_lt.2 hle)

/-- The checks that can fail, in their order, and what comes out if none does. -/
theorem referrerFee_eq (amount : UInt64) (source : UInt8) (rate : UInt32) (destination cap : UInt8) :
    referrerFee amount source rate destination cap =
      if 65536 ≤ rate.toNat then .error (.invalidFee s!"{rate.toNat} dBps exceeds u16")
      else if rate ≠ 0 ∧ 19 < Amount.lostDigits source destination cap then
        .error (.scaling .exponent)
      else if amount = 0 then .error (.invalidFee "amount after fee is zero")
      else .ok ⟨.ofNat (feeUnits amount rate.toNat), .ofNat (amount.toNat -
        Amount.rounded (feeUnits amount rate.toNat) (Amount.lostDigits source destination cap)),
        rate.toUInt16⟩ := by
  unfold referrerFee
  by_cases hrate : 65536 ≤ rate.toNat
  · rw [if_pos hrate, if_pos hrate]
    rfl
  have hnarrow : rate.toUInt16.toNat = rate.toNat := by
    rw [UInt32.toNat_toUInt16, Nat.mod_eq_of_lt (by omega)]
  have hzero : rate.toUInt16 = 0 ↔ rate = 0 := by
    rw [← UInt16.toNat_inj, ← UInt32.toNat_inj, hnarrow]
    rfl
  rw [if_neg hrate, if_neg hrate]
  simp only [deductFee_eq, hnarrow, ne_eq, hzero]
  by_cases hmany : ¬ rate = 0 ∧ 19 < Amount.lostDigits source destination cap
  · rw [if_pos hmany, if_pos hmany]
    rfl
  rw [if_neg hmany, if_neg hmany]
  have hempty := remaining_eq_zero_iff (n := rate.toNat) amount (by omega)
    (Amount.lostDigits source destination cap)
  show (if UInt64.ofNat (amount.toNat - _) = 0 then _ else _) = _
  by_cases hamount : amount = 0
  · rw [if_pos (hempty.2 hamount), if_pos hamount]
    rfl
  · rw [if_neg (mt hempty.1 hamount), if_neg hamount]
    rfl

section
variable {amount : UInt64} {source destination cap : UInt8} {rate : UInt32}

theorem exists_referrerFee_iff :
    (∃ fee, referrerFee amount source rate destination cap = .ok fee) ↔
      rate.toNat ≤ 65535 ∧ 0 < amount ∧
        (rate = 0 ∨ Amount.lostDigits source destination cap ≤ 19) := by
  rw [referrerFee_eq, UInt64.pos_iff_ne_zero]
  split
  · exact iff_of_false nofun (by omega)
  split
  · rename_i hmany
    exact iff_of_false nofun fun h => h.2.2.elim hmany.1 (Nat.not_le.2 hmany.2)
  rename_i hrate hfew
  rw [not_and_or, ne_eq, not_not, Nat.not_lt] at hfew
  split
  · rename_i hamount
    exact iff_of_false nofun fun h => h.2.1 hamount
  · rename_i hamount
    exact iff_of_true ⟨_, rfl⟩ ⟨by omega, hamount, hfew⟩

/-- No product and no difference is ever refused. -/
theorem referrerFee_eq_error {err : Error}
    (h : referrerFee amount source rate destination cap = .error err) :
    err = .invalidFee s!"{rate.toNat} dBps exceeds u16" ∨ err = .scaling .exponent ∨
      err = .invalidFee "amount after fee is zero" := by
  rw [referrerFee_eq] at h
  split at h
  · cases h
    exact .inl rfl
  split at h
  · cases h
    exact .inr (.inl rfl)
  split at h
  · cases h
    exact .inr (.inr rfl)
  · cases h

/-- What comes out, over the naturals. -/
theorem of_referrerFee {fee : ReferrerFee}
    (h : referrerFee amount source rate destination cap = .ok fee) :
    fee.rate.toNat = rate.toNat ∧ fee.fee.toNat = feeUnits amount rate.toNat ∧
      fee.fee < amount ∧ fee.remaining.toNat = amount.toNat - Amount.rounded fee.fee.toNat
        (Amount.lostDigits source destination cap) := by
  obtain ⟨hrate, hpos, -⟩ := exists_referrerFee_iff.1 ⟨fee, h⟩
  rw [UInt64.lt_iff_toNat_lt] at hpos
  have hlt := feeUnits_lt (n := rate.toNat) (by omega) hpos
  rw [referrerFee_eq, if_neg (by omega)] at h
  split at h
  · cases h
  split at h
  · cases h
  cases h
  have hfee : (UInt64.ofNat (feeUnits amount rate.toNat)).toNat = feeUnits amount rate.toNat :=
    UInt64.toNat_ofNat_of_lt' (hlt.trans amount.toNat_lt)
  refine ⟨?_, hfee, ?_, ?_⟩
  · rw [UInt32.toNat_toUInt16, Nat.mod_eq_of_lt (by omega)]
  · rwa [UInt64.lt_iff_toNat_lt, hfee]
  · rw [hfee]
    exact UInt64.toNat_ofNat_of_lt' (Nat.lt_of_le_of_lt (Nat.sub_le ..) amount.toNat_lt)

/-- A fee leaves something, and adds nothing. -/
theorem referrerFee_remaining {fee : ReferrerFee}
    (h : referrerFee amount source rate destination cap = .ok fee) :
    0 < fee.remaining ∧ fee.remaining ≤ amount := by
  obtain ⟨-, -, hfee, hremaining⟩ := of_referrerFee h
  have hle := Amount.rounded_le fee.fee.toNat (Amount.lostDigits source destination cap)
  rw [UInt64.lt_iff_toNat_lt] at hfee ⊢
  rw [UInt64.le_iff_toNat_le, hremaining]
  exact ⟨by show 0 < _; omega, Nat.sub_le ..⟩

end

/-- **A referrer fee is exact.** There is one for each amount that is not zero and each rate of 16
bits, unless more than 19 digits have to go; no arithmetic overflows. The fee is the share of the
amount that the rate takes, rounded down. What is kept back of it is the largest number that ends in
as many zeros as digits have to go, and the rest is sent on. -/
theorem referrerFee_exact (amount : UInt64) (source : UInt8) (rate : UInt32)
    (destination cap : UInt8) :
    let digits := source.toNat - min cap.toNat (min source.toNat destination.toNat)
    let res := referrerFee amount source rate destination cap
    ((∃ fee, res = .ok fee) ↔ rate.toNat ≤ 65535 ∧ 0 < amount ∧ (rate = 0 ∨ digits ≤ 19)) ∧
    (∀ what, res ≠ .error (.overflow what)) ∧ res ≠ .error (.scaling .amount) ∧
    ∀ fee, res = .ok fee →
      fee.rate.toNat = rate.toNat ∧
      fee.fee.toNat = amount.toNat * rate.toNat / 100000 ∧ fee.fee < amount ∧
      IsGreatest {n | 10 ^ digits ∣ n ∧ n ≤ fee.fee.toNat} (amount.toNat - fee.remaining.toNat) ∧
      0 < fee.remaining ∧ fee.remaining ≤ amount := by
  intro digits res
  refine ⟨exists_referrerFee_iff, fun what h => ?_, fun h => ?_, fun fee h => ?_⟩
  · rcases referrerFee_eq_error h with h | h | h <;> cases h
  · rcases referrerFee_eq_error h with h | h | h <;> cases h
  · obtain ⟨hrate, hfee, hlt, hremaining⟩ := of_referrerFee h
    obtain ⟨hpos, hle⟩ := referrerFee_remaining h
    have hround := Amount.rounded_le fee.fee.toNat digits
    have hkept : amount.toNat - fee.remaining.toNat = Amount.rounded fee.fee.toNat digits := by
      rw [UInt64.lt_iff_toNat_lt] at hlt
      rw [hremaining]
      exact Nat.sub_sub_self (hround.trans hlt.le)
    refine ⟨hrate, hfee, hlt, ?_, hpos, hle⟩
    rw [hkept]
    exact Amount.isGreatest_rounded ..

/-- Of 5790 units with 9 decimals one percent is 57, and 50 of it can be counted with 8. If a token
has 30 decimals, 22 of them are too many to take away, but at no rate there is nothing to trim. -/
theorem referrerFee_exact_sample :
    referrerFee 5790 9 1000 18 8 = .ok ⟨57, 5740, 1000⟩ ∧
      IsGreatest {n | 10 ^ 1 ∣ n ∧ n ≤ 57} 50 ∧
      referrerFee 5790 30 1000 18 8 = .error (.scaling .exponent) ∧
      ∃ fee, referrerFee 5790 30 0 18 8 = .ok fee := by
  have hfee : referrerFee 5790 9 1000 18 8 = .ok ⟨57, 5740, 1000⟩ := rfl
  obtain ⟨-, -, -, hexact⟩ := referrerFee_exact 5790 9 1000 18 8
  exact ⟨hfee, (hexact _ hfee).2.2.2.1, rfl,
    (referrerFee_exact 5790 30 0 18 8).1.2 ⟨by decide, by decide, .inl rfl⟩⟩

end TokenBridge
