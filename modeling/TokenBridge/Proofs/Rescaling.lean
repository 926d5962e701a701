import TokenBridge.Proofs.Amount

/-!
# Rescaling in steps

Over the naturals one formula counts an amount with other decimals, more or fewer (`recounted`).
Only the difference of its exponents matters (`recounted_eq`), so a count by way of a third number
of decimals is the direct one, unless it drops digits there that were still wanted
(`recounted_recounted`). `rescale_eq_ok` and `rescale_eq_error` carry this over to words: the power
of ten may have too many digits, and on the way up the product may be too large.
-/

namespace TokenBridge

namespace Amount

/-- What `n` units of `source` decimals are in units of `target` decimals, rounded down. -/
def recounted (n source target : Nat) : Nat := n * 10 ^ (target - source) / 10 ^ (source - target)

theorem recounted_eq {n up down source target : Nat} (h : up + source = down + target) :
    n * 10 ^ up / 10 ^ down = recounted n source target := by
  obtain ⟨k, hup, hdown⟩ : ∃ k, up = target - source + k ∧ down = source - target + k :=
    ⟨up - (target - source), by omega, by omega⟩
  have hpos : 0 < 10 ^ k := Nat.pow_pos (by decide)
  rw [hup, hdown, pow_add, pow_add, ← Nat.mul_assoc, Nat.mul_div_mul_right _ _ hpos, recounted]

theorem recounted_up {n source target : Nat} (h : source ≤ target) :
    recounted n source target = n * 10 ^ (target - source) := by
  rw [recounted, Nat.sub_eq_zero_of_le h, pow_zero, Nat.div_one]

theorem recounted_down {n source target : Nat} (h : target ≤ source) :
    recounted n source target = n / 10 ^ (source - target) := by
  rw [recounted, Nat.sub_eq_zero_of_le h, pow_zero, Nat.mul_one]

theorem recounted_recounted {n source between target : Nat} (h : min source target ≤ between) :
    recounted (recounted n source between) between target = recounted n source target := by
  -- either the first step loses nothing, or both steps drop digits
  rcases Nat.lt_or_ge between source with hdown | hup
  · have hlast : target ≤ between := by omega
    rw [recounted_down hdown.le, recounted_down hlast, recounted_down (hlast.trans hdown.le),
      Nat.div_div_eq_div_mul, ← pow_add]
    congr 2
    omega
  · rw [recounted_up hup, recounted, Nat.mul_assoc, ← pow_add]
    exact recounted_eq (by omega)

/-- Counted down and up again, an amount has been rounded. -/
theorem recounted_back {n source target : Nat} (h : target ≤ source) :
    recounted (recounted n source target) target source = rounded n (source - target) := by
  rw [recounted_down h, recounted_up h, rounded]

section
variable {units n : UInt64} {source target : UInt8}

theorem rescale_eq_ok :
    rescale units source target = .ok n ↔
      ((source.toNat : Int) - target.toNat).natAbs ≤ 19 ∧
      units.toNat * 10 ^ (target.toNat - source.toNat) < UInt64.size ∧
      n.toNat = recounted units.toNat source.toNat target.toNat := by
  rcases UInt8.le_total source target with hle | hle
  · have hnat := UInt8.le_iff_toNat_le.1 hle
    have hdist : ((source.toNat : Int) - target.toNat).natAbs = target.toNat - source.toNat := by
      omega
    rw [rescale_up_eq_ok hle, FitsAt, scaledUp, recounted_up hnat, hdist, and_assoc]
  · have hnat := UInt8.le_iff_toNat_le.1 hle
    have hdist : ((source.toNat : Int) - target.toNat).natAbs = source.toNat - target.toNat := by
      omega
    have hlt : units.toNat * 10 ^ (target.toNat - source.toNat) < UInt64.size := by
      rw [Nat.sub_eq_zero_of_le hnat, pow_zero, Nat.mul_one]
      exact units.toNat_lt
    rw [rescale_down_eq_ok hle, recounted_down hnat, hdist]
    exact and_congr_right fun _ => (and_iff_right hlt).symm

theorem mul?_eq_none_iff {a b : UInt64} :
    Word.mul? a b = none ↔ UInt64.size ≤ a.toNat * b.toNat := by
  rw [Word.mul?, ite_eq_right_iff, imp_iff_not (by simp), Nat.not_lt]

/-- The power of ten is looked at before the product. -/
theorem rescale_eq_error {fault : ScalingFault} :
    rescale units source target = .error fault ↔
      19 < ((source.toNat : Int) - target.toNat).natAbs ∧ fault = .exponent ∨
      source < target ∧ target.toNat - source.toNat ≤ 19 ∧
        UInt64.size ≤ units.toNat * 10 ^ (target.toNat - source.toNat) ∧ fault = .amount := by
  rcases UInt8.lt_or_le source target with hlt | hle
  · have hnat := UInt8.lt_iff_toNat_lt.1 hlt
    have hdist : ((source.toNat : Int) - target.toNat).natAbs = target.toNat - source.toNat := by
      omega
    have hsub : (target - source).toNat = target.toNat - source.toNat :=
      UInt8.toNat_sub_of_le _ _ (UInt8.le_of_lt hlt)
    rw [rescale, if_neg (UInt8.ne_of_lt hlt), if_neg (UInt8.not_lt.2 (UInt8.le_of_lt hlt)), hdist]
    simp only [bind_eq_error, powerOfTen_eq_error, powerOfTen_eq_ok, hsub, hlt, true_and]
    refine or_congr_right ⟨?_, ?_⟩
    · rintro ⟨p, ⟨hexp, hp⟩, h⟩
      split at h
      · cases h
      · rename_i hnone
        rw [mul?_eq_none_iff, hp] at hnone
        cases h
        exact ⟨hexp, hnone, rfl⟩
    · rintro ⟨hexp, hlarge, rfl⟩
      obtain ⟨p, hp⟩ := exists_power hexp
      have hnone : Word.mul? units p = none := mul?_eq_none_iff.2 (by rwa [hp])
      refine ⟨p, ⟨hexp, hp⟩, ?_⟩
      rw [hnone]
      rfl
  · have hnat := UInt8.le_iff_toNat_le.1 hle
    have hdist : ((source.toNat : Int) - target.toNat).natAbs = source.toNat - target.toNat := by
      omega
    rw [rescale_down_eq_error hle, hdist]
    exact (or_iff_left fun h => absurd h.1 (UInt8.not_lt.2 hle)).symm

end

/-- **Rescaling composes.** By way of decimals that are no fewer than the fewer of the two ends, an
amount comes out as it does directly. Up and down again nothing is lost, and down and up again it is
rounded down to what the fewer decimals can count. Rescaling fails only if there are more than 19
digits to move, or if a product on the way up does not fit a word. -/
theorem rescale_composes (amount : UInt64) (f m t : UInt8) :
    (min f.toNat t.toNat ≤ m.toNat → ∀ x y z, rescale amount f m = .ok x → rescale x m t = .ok y →
      rescale amount f t = .ok z → y = z) ∧
    (f ≤ t → ∀ x, rescale amount f t = .ok x → rescale x t f = .ok amount) ∧
    (t ≤ f → ∀ x, rescale amount f t = .ok x → ∃ y, rescale x t f = .ok y ∧
      IsGreatest {n | 10 ^ (f.toNat - t.toNat) ∣ n ∧ n ≤ amount.toNat} y.toNat) ∧
    ∀ fault, rescale amount f t = .error fault ↔
      19 < ((f.toNat : Int) - t.toNat).natAbs ∧ fault = .exponent ∨
      f < t ∧ t.toNat - f.toNat ≤ 19 ∧ 2 ^ 64 ≤ amount.toNat * 10 ^ (t.toNat - f.toNat) ∧
        fault = .amount := by
  refine ⟨fun hm x y z hx hy hz => ?_, fun hle x hx => ?_, fun hle x hx => ?_,
    fun fault => rescale_eq_error⟩
  · have hxn := (rescale_eq_ok.1 hx).2.2
    have hyn := (rescale_eq_ok.1 hy).2.2
    have hzn := (rescale_eq_ok.1 hz).2.2
    rw [← UInt64.toNat_inj, hyn, hzn, hxn, recounted_recounted hm]
  · obtain ⟨hdist, -, hxn⟩ := rescale_eq_ok.1 hx
    rw [UInt8.le_iff_toNat_le] at hle
    have hlt : x.toNat * 10 ^ (f.toNat - t.toNat) < UInt64.size := by
      rw [Nat.sub_eq_zero_of_le hle, pow_zero, Nat.mul_one]
      exact x.toNat_lt
    refine rescale_eq_ok.2 ⟨by omega, hlt, ?_⟩
    rw [hxn, recounted_recounted (by omega), recounted_up (le_refl _), Nat.sub_self, pow_zero,
      Nat.mul_one]
  · obtain ⟨hdist, -, hxn⟩ := rescale_eq_ok.1 hx
    rw [UInt8.le_iff_toNat_le] at hle
    have hback : recounted x.toNat t.toNat f.toNat = rounded amount.toNat (f.toNat - t.toNat) := by
      rw [hxn, recounted_back hle]
    have hlt : x.toNat * 10 ^ (f.toNat - t.toNat) < UInt64.size := by
      rw [← recounted_up hle, hback]
      exact Nat.lt_of_le_of_lt (rounded_le ..) amount.toNat_lt
    obtain ⟨y, hy⟩ : ∃ y : UInt64, y.toNat = recounted x.toNat t.toNat f.toNat :=
      ⟨.ofNat _, UInt64.toNat_ofNat_of_lt' (by rwa [recounted_up hle])⟩
    refine ⟨y, rescale_eq_ok.2 ⟨by omega, hlt, hy⟩, ?_⟩
    rw [hy, hback]
    exact isGreatest_rounded ..

/-- 12345 with 3 decimals is 123 with 1, by way of 2 decimals as well, and 12300 again with 3. With 6
decimals it is 12345000, and back it is 12345. -/
theorem rescale_composes_sample :
    rescale 1234 2 1 = .ok 123 ∧ rescale 12345 3 1 = .ok 123 ∧
      (∀ y, rescale 1234 2 1 = .ok y → y = 123) ∧
      rescale 12345000 6 3 = .ok 12345 ∧
      ∃ y, rescale 123 1 3 = .ok y ∧ IsGreatest {n | 10 ^ 2 ∣ n ∧ n ≤ 12345} y.toNat := by
  have hdirect : rescale 12345 3 1 = .ok 123 := rfl
  have hstep : rescale 12345 3 2 = .ok 1234 := rfl
  have hup : rescale 12345 3 6 = .ok 12345000 := rfl
  obtain ⟨hcompose, -, hround, -⟩ := rescale_composes 12345 3 2 1
  obtain ⟨-, hback, -, -⟩ := rescale_composes 12345 3 3 6
  exact ⟨rfl, hdirect, fun y hy => hcompose (by decide) _ _ _ hstep hy hdirect,
    hback (by decide) _ hup, hround (by decide) _ hdirect⟩

end Amount

end TokenBridge
