import TokenBridge.Proofs.Rounding

/-!
# Seconds and durations

A double is the length of some duration exactly if it is not negative and less than `2 ^ 64`, and
then the duration is the one nearest to it (`ofFloat?_eq_some`, `exists_nearest_iff`). In the
other direction the seconds of a duration are added up from two doubles, and may come out as
`2 ^ 64`; but a duration that was read from a double is always written as one that can be read
again (`Nearest.again`).
-/

namespace TokenBridge

open Float.Model.UnpackedFloat Binary64

/-- An integer next to a number, and the even one if there are two. -/
structure NearestInt (x : ℝ) (n : ℕ) : Prop where
  near : |n - x| ≤ 1 / 2
  even : |n - x| = 1 / 2 → Even n

theorem NearestInt.unique {x : ℝ} {m n : ℕ} (hm : NearestInt x m) (hn : NearestInt x n) :
    m = n := by
  have hstep {m n : ℕ} (hm : NearestInt x m) (hn : NearestInt x n) : m ≤ n := by
    by_contra hlt
    have hle : (n : ℝ) + 1 ≤ m := by exact_mod_cast not_le.1 hlt
    have hupper := (abs_le.1 hm.near).2
    have hlower := (abs_le.1 hn.near).1
    -- one apart, with the number half way between them
    have hm' : (m : ℝ) - x = 1 / 2 := by linarith
    have hn' : (n : ℝ) - x = -(1 / 2) := by linarith
    have hnext : m = n + 1 := by
      have : (m : ℝ) = (n + 1 : ℕ) := by
        push_cast
        linarith
      exact_mod_cast this
    have heven := hm.even (by rw [hm']; norm_num)
    rw [hnext, Nat.even_add_one] at heven
    exact heven (hn.even (by rw [hn']; norm_num))
  exact le_antisymm (hstep hm hn) (hstep hn hm)

namespace Duration

theorem nearestInt_nearest (n : ℕ) {d : ℕ} (hd : 0 < d) : NearestInt (n / d) (nearest n d) := by
  have hd' : (0 : ℝ) < d := by exact_mod_cast hd
  have hdiv : (n : ℝ) / d = (n / d : ℕ) + (n % d : ℕ) / d := by
    rw [← mul_right_inj' hd'.ne', mul_add, mul_div_cancel₀ _ hd'.ne', mul_div_cancel₀ _ hd'.ne']
    exact_mod_cast (Nat.div_add_mod n d).symm
  have hrest : (0 : ℝ) ≤ (n % d : ℕ) / d := by positivity
  have hlt : ((n % d : ℕ) : ℝ) / d < 1 := by
    rw [div_lt_one hd']
    exact_mod_cast Nat.mod_lt n hd
  have hhalf : 2 * (n % d) ≤ d ↔ ((n % d : ℕ) : ℝ) / d ≤ 1 / 2 := by
    rw [div_le_div_iff₀ hd' two_pos, one_mul, mul_comm]
    exact_mod_cast Iff.rfl
  have hexact : 2 * (n % d) = d ↔ ((n % d : ℕ) : ℝ) / d = 1 / 2 := by
    rw [div_eq_div_iff hd'.ne' two_ne_zero, one_mul, mul_comm]
    exact_mod_cast Iff.rfl
  rw [hdiv]
  generalize ((n % d : ℕ) : ℝ) / d = rest at *
  unfold nearest
  split
  · next h =>
    have hle : rest ≤ 1 / 2 := hhalf.1 (by omega)
    have habs : |((n / d : ℕ) : ℝ) - ((n / d : ℕ) + rest)| = rest := by
      rw [sub_add_cancel_left, abs_neg, abs_of_nonneg hrest]
    refine ⟨by rwa [habs], fun htie => ?_⟩
    have := hexact.2 (habs.symm.trans htie)
    exact Nat.even_iff.2 (by omega)
  · next h =>
    have hge : 1 / 2 ≤ rest := by
      by_contra hlt
      have := hhalf.2 (not_le.1 hlt).le
      have := hexact.not.2 (not_le.1 hlt).ne
      omega
    have habs : |((n / d + 1 : ℕ) : ℝ) - ((n / d : ℕ) + rest)| = 1 - rest := by
      push_cast
      rw [add_sub_add_left_eq_sub, abs_of_nonneg (by linarith)]
    refine ⟨by rw [habs]; linarith, fun htie => ?_⟩
    have := hexact.2 (by linarith)
    exact Nat.even_add_one.2 (Nat.not_even_iff.2 (by omega))

/-! ## Reading -/

/-- The duration nearest to a number of seconds. -/
def Nearest (x : Float) (d : Duration) : Prop :=
  ∃ v : ℝ, Denotes x v ∧ 0 ≤ v ∧ NearestInt (v * 1000000000) d.nanos

theorem scaled_value (m : ℕ) (e : ℤ) :
    0 < (Decimal.Ratio.scaled m 2 e).den ∧ ((Decimal.Ratio.scaled m 2 e).num : ℝ)
      / (Decimal.Ratio.scaled m 2 e).den = m * 2 ^ e := by
  unfold Decimal.Ratio.scaled
  split
  · next h =>
    obtain ⟨k, rfl⟩ : ∃ k : ℕ, e = k := ⟨e.toNat, by omega⟩
    exact ⟨Nat.one_pos, by simp⟩
  · next h =>
    have he : (((-e).toNat : ℕ) : ℤ) = -e := Int.toNat_of_nonneg (by omega)
    refine ⟨Nat.pos_of_ne_zero (by simp), ?_⟩
    have hpow : (2 : ℝ) ^ e = ((2 : ℝ) ^ (-e).toNat)⁻¹ := by
      rw [← zpow_natCast, he, zpow_neg, inv_inv]
    rw [hpow]
    simp [div_eq_mul_inv]

theorem nearestInt_scaled (m : ℕ) (e : ℤ) :
    NearestInt (m * 2 ^ e * 1000000000) (nearest ((Decimal.Ratio.scaled m 2 e).num * 1000000000)
      (Decimal.Ratio.scaled m 2 e).den) := by
  obtain ⟨hden, hvalue⟩ := scaled_value m e
  have hnearest := nearestInt_nearest ((Decimal.Ratio.scaled m 2 e).num * 1000000000) hden
  rwa [Nat.cast_mul, mul_div_right_comm, hvalue, Nat.cast_ofNat] at hnearest

theorem ofNanos?_eq_some {n : ℕ} {d : Duration} : ofNanos? n = some d ↔ n = d.nanos := by
  unfold ofNanos?
  split
  · rw [Option.some.injEq]
    constructor
    · rintro rfl
      rfl
    · rintro rfl
      rfl
  · next h =>
    constructor
    · intro hnone
      cases hnone
    · rintro rfl
      exact absurd d.fits h

theorem ofFloat?_eq_some {x : Float} {d : Duration} : ofFloat? x = some d ↔ Nearest x d := by
  have hzero : NearestInt (0 * 1000000000) 0 := ⟨by norm_num, by norm_num⟩
  unfold ofFloat?
  constructor
  · intro h
    split at h
    · next s hu =>
      have hvalue : Denotes x (0 : ℝ) := by
        rw [Denotes, hu]
        rfl
      exact ⟨0, hvalue, le_rfl, ofNanos?_eq_some.1 h ▸ hzero⟩
    · next m e hm hu =>
      exact ⟨_, denotes_of_unpack hm hu rfl, by positivity,
        ofNanos?_eq_some.1 h ▸ nearestInt_scaled m e⟩
    · cases h
  · rintro ⟨v, hv, hpos, hn⟩
    rcases hv.cases_of_nonneg hpos with ⟨rfl, s, hu⟩ | ⟨m, e, hm, hu, rfl⟩
    · rw [hu]
      exact ofNanos?_eq_some.2 (hzero.unique hn)
    · rw [hu]
      exact ofNanos?_eq_some.2 ((nearestInt_scaled m e).unique hn)

/-- A double from `2 ^ 53` on is an integer. -/
theorem exists_eq_natCast {x : Float} {v : ℝ} (h : Denotes x v) (hv : 2 ^ 53 ≤ v) :
    ∃ (n m : ℕ) (e : ℤ), v = n ∧ v = m * 2 ^ e ∧ m < 2 ^ 53 ∧ -1074 ≤ e := by
  rcases h.cases_of_nonneg (le_trans (by positivity) hv) with ⟨rfl, -⟩ | ⟨m, e, hm, hu, rfl⟩
  · norm_num at hv
  · have hcanonical := (canonical_unpack hu).1
    have hm' : (m : ℝ) < 2 ^ 53 := by exact_mod_cast hcanonical.mantissa_lt
    have he : 0 ≤ e := by
      by_contra hneg
      have hle : (2 : ℝ) ^ e ≤ 1 := zpow_le_one_of_nonpos₀ one_le_two (by omega)
      have : (m : ℝ) * 2 ^ e ≤ m * 1 := by gcongr
      linarith
    obtain ⟨k, rfl⟩ : ∃ k : ℕ, e = k := ⟨e.toNat, by omega⟩
    exact ⟨m * 2 ^ k, m, k, by push_cast; rw [zpow_natCast], rfl, hcanonical.mantissa_lt, by omega⟩

theorem Nearest.lt_two_pow {x : Float} {d : Duration} {v : ℝ} (h : Nearest x d)
    (hx : Denotes x v) : v < 2 ^ 64 := by
  obtain ⟨w, hw, -, hn⟩ := h
  rw [← hw.unique hx]
  have hnear := (abs_le.1 hn.near).1
  have hfits : (d.nanos : ℝ) + 1 ≤ 2 ^ 64 * 1000000000 := by exact_mod_cast d.fits
  linarith

/-- A double is read as a duration if it is in the range of one. Large doubles are integers, so
rounding takes none out of the range. -/
theorem exists_nearest_iff {x : Float} :
    (∃ d, Nearest x d) ↔ ∃ v : ℝ, Denotes x v ∧ 0 ≤ v ∧ v < 2 ^ 64 := by
  constructor
  · rintro ⟨d, v, hv, hpos, hn⟩
    exact ⟨v, hv, hpos, Nearest.lt_two_pow ⟨v, hv, hpos, hn⟩ hv⟩
  rintro ⟨v, h, hv, hlt⟩
  have hroom : v ≤ 2 ^ 64 - 1 := by
    rcases le_or_gt (2 ^ 53) v with hge | hsmall
    · obtain ⟨n, m, e, rfl, -⟩ := exists_eq_natCast h hge
      have : n + 1 ≤ 2 ^ 64 := by exact_mod_cast hlt
      have : (n : ℝ) + 1 ≤ 2 ^ 64 := by exact_mod_cast this
      linarith
    · norm_num at hsmall ⊢
      linarith
  obtain ⟨n, hn⟩ : ∃ n, NearestInt (v * 1000000000) n := by
    rcases h.cases_of_nonneg hv with ⟨rfl, -⟩ | ⟨m, e, -, -, rfl⟩
    · exact ⟨0, by norm_num, by norm_num⟩
    · exact ⟨_, nearestInt_scaled m e⟩
  refine ⟨⟨n, ?_⟩, v, h, hv, hn⟩
  have hle := (abs_le.1 hn.near).2
  have hfits : (n : ℝ) < (UInt64.size * 1000000000 : ℕ) := by
    calc (n : ℝ) ≤ v * 1000000000 + 1 / 2 := by linarith
      _ ≤ (2 ^ 64 - 1) * 1000000000 + 1 / 2 := by gcongr
      _ < (UInt64.size * 1000000000 : ℕ) := by norm_num [UInt64.size]
  exact_mod_cast hfits

/-! ## Writing -/

theorem denotes_billion : Denotes 1000000000 (1000000000 : ℝ) :=
  denotes_of_unpack (m := 8388608000000000) (e := -23) (by norm_num) rfl (by norm_num)

/-- Nanoseconds below a second as a fraction of it: rounding may make them a little more than they
are, but does not make any from none. -/
theorem exists_denotes_fraction {n : ℕ} (hn : n < 1000000000) : ∃ q : ℝ,
    Denotes ((UInt64.ofNat n).toFloat / 1000000000) q ∧ 0 ≤ q ∧ q ≤ 2 ^ (1 : ℤ) ∧
      (n = 0 → q = 0) ∧ (n ≠ 0 → 2 ^ (-30 : ℤ) ≤ q) := by
  have hword : (UInt64.ofNat n).toNat = n := by
    rw [UInt64.toNat_ofNat']
    omega
  obtain ⟨a, ha, hnear⟩ := denotesNear_toFloat (UInt64.ofNat n)
  rw [hword] at hnear
  have hpos : 0 ≤ a := hnear.nonneg (Nat.cast_nonneg n)
  have hle : a ≤ 2 ^ (30 : ℤ) := by
    refine hnear.le_two_pow (by norm_num) ?_
    have : (n : ℝ) < 1000000000 := by exact_mod_cast hn
    norm_num
    linarith
  have hsmall : a / 1000000000 ≤ 2 ^ (1 : ℤ) := by
    norm_num at hle ⊢
    linarith
  obtain ⟨q, hq, hqnear⟩ := ha.div denotes_billion hpos (by norm_num)
    (hsmall.trans (zpow_le_zpow_right₀ one_le_two (by norm_num)))
  refine ⟨q, hq, hqnear.nonneg (by positivity), hqnear.le_two_pow (by norm_num) hsmall, ?_, ?_⟩
  · rintro rfl
    rw [Nat.cast_zero] at hnear
    rw [hnear.eq_zero, zero_div] at hqnear
    exact hqnear.eq_zero
  · intro hne
    have hone : 2 ^ (0 : ℤ) ≤ a := by
      refine hnear.two_pow_le (by norm_num) ?_
      rw [zpow_zero]
      exact_mod_cast Nat.one_le_iff_ne_zero.2 hne
    have hleast : (2 : ℝ) ^ (-30 : ℤ) ≤ a / 1000000000 := by
      norm_num at hone ⊢
      linarith
    exact hqnear.two_pow_le (by norm_num) hleast

/-- The seconds are added up from the whole seconds and the fraction. -/
theorem exists_denotes_toFloat (d : Duration) : ∃ s q v : ℝ, Denotes d.toFloat v ∧
    Near (d.nanos / 1000000000 : ℕ) s ∧ Near (s + q) v ∧ 0 ≤ s ∧ 0 ≤ q ∧ q ≤ 2 ^ (1 : ℤ) ∧
      (d.nanos % 1000000000 = 0 → q = 0) ∧ (d.nanos % 1000000000 ≠ 0 → 2 ^ (-30 : ℤ) ≤ q) := by
  have hfits := d.fits
  have hsize : UInt64.size = 2 ^ 64 := rfl
  have hword : (UInt64.ofNat (d.nanos / 1000000000)).toNat = d.nanos / 1000000000 := by
    rw [UInt64.toNat_ofNat']
    omega
  obtain ⟨s, hs, hsnear⟩ := denotesNear_toFloat (UInt64.ofNat (d.nanos / 1000000000))
  obtain ⟨q, hq, hq0, hq1, hzero, hpos⟩ :=
    exists_denotes_fraction (Nat.mod_lt d.nanos (by norm_num : 0 < 1000000000))
  have hlt := UInt64.toNat_lt (UInt64.ofNat (d.nanos / 1000000000))
  have hs0 := hsnear.nonneg (Nat.cast_nonneg _)
  have hsmax : s ≤ 2 ^ (64 : ℤ) := hsnear.le_two_pow (by norm_num) (by exact_mod_cast hlt.le)
  have hmax : s + q ≤ 2 ^ (1023 : ℤ) := by
    refine le_trans ?_ (two_pow_le_most (n := 65) (by norm_num))
    norm_num at hsmax hq1 ⊢
    linarith
  obtain ⟨v, hv, hvnear⟩ := hs.add hq hs0 hq0 hmax
  rw [hword] at hsnear
  exact ⟨s, q, v, hv, hsnear, hvnear, hs0, hq0, hq1, hzero, hpos⟩

/-- The seconds are at most a few times a power of two that bounds the whole seconds. -/
theorem exists_denotes_toFloat_le {d : Duration} {g : ℕ} (hg : g ≤ 64)
    (h : d.nanos / 1000000000 ≤ 2 ^ g) :
    ∃ v : ℝ, Denotes d.toFloat v ∧ 0 ≤ v ∧ v ≤ 2 ^ (g + 2 : ℤ) := by
  obtain ⟨s, q, v, hv, hs, hsum, hs0, hq0, hq1, -⟩ := exists_denotes_toFloat d
  refine ⟨v, hv, hsum.nonneg (add_nonneg hs0 hq0), hsum.le_two_pow (by omega) ?_⟩
  have hsle : s ≤ 2 ^ (g : ℤ) := hs.le_two_pow (by omega) (by exact_mod_cast h)
  have hone : (1 : ℝ) ≤ 2 ^ (g : ℤ) := one_le_zpow₀ one_le_two (by omega)
  rw [zpow_add₀ two_ne_zero]
  rw [zpow_natCast] at *
  norm_num at hq1 ⊢
  linarith

theorem exists_denotes_toFloat_pos (d : Duration) :
    ∃ v : ℝ, Denotes d.toFloat v ∧ 0 ≤ v ∧ (v = 0 ↔ d.nanos = 0) := by
  obtain ⟨s, q, v, hv, hs, hsum, hs0, hq0, -, hzero, hpos⟩ := exists_denotes_toFloat d
  refine ⟨v, hv, hsum.nonneg (add_nonneg hs0 hq0), ?_⟩
  constructor
  · rintro rfl
    by_contra hne
    have hleast : 2 ^ (-30 : ℤ) ≤ s + q := by
      by_cases hfraction : d.nanos % 1000000000 = 0
      · have hone : 2 ^ (0 : ℤ) ≤ s := by
          refine hs.two_pow_le (by norm_num) ?_
          rw [zpow_zero]
          have : 1 ≤ d.nanos / 1000000000 := by omega
          exact_mod_cast this
        norm_num at hone ⊢
        linarith
      · have := hpos hfraction
        linarith
    have := hsum.two_pow_le (by norm_num) hleast
    norm_num at this
  · intro h
    rw [h, Nat.zero_div, Nat.cast_zero] at hs
    rw [hs.eq_zero, hzero (by omega), add_zero] at hsum
    exact hsum.eq_zero

/-- A duration read from a double is written as a double that can be read. From `2 ^ 53` seconds on
there is no fraction, and the whole seconds are those of the double. -/
theorem Nearest.again {x : Float} {d : Duration} (h : Nearest x d) :
    ∃ d', Nearest d.toFloat d' := by
  have ⟨w, hx, hw0, hn⟩ := h
  have hw := h.lt_two_pow hx
  have hnear := abs_le.1 hn.near
  rw [exists_nearest_iff]
  rcases le_or_gt (2 ^ 53) w with hge | hlt
  · obtain ⟨n, m, e, rfl, hme, hm, he⟩ := exists_eq_natCast hx hge
    have hnanos : d.nanos = n * 1000000000 := by
      refine hn.unique ⟨?_, ?_⟩ <;> push_cast <;> rw [sub_self, abs_zero] <;> norm_num
    obtain ⟨s, q, v, hv, hs, hsum, hs0, hq0, -, hzero, -⟩ := exists_denotes_toFloat d
    rw [hnanos, Nat.mul_div_cancel _ (by norm_num)] at hs
    rw [hzero (by omega), add_zero, hs.eq_of_double hm he hme] at hsum
    have hv' := hsum.eq_of_double hm he hme
    exact ⟨v, hv, by rw [hv']; positivity, by rwa [hv']⟩
  · have hseconds : d.nanos / 1000000000 ≤ 2 ^ 53 := by
      have hle : (d.nanos : ℝ) < (2 ^ 53 + 1) * 1000000000 := by
        calc (d.nanos : ℝ) ≤ w * 1000000000 + 1 / 2 := by linarith
          _ ≤ 2 ^ 53 * 1000000000 + 1 / 2 := by gcongr
          _ < (2 ^ 53 + 1) * 1000000000 := by norm_num
      have : d.nanos < (2 ^ 53 + 1) * 1000000000 := by exact_mod_cast hle
      omega
    obtain ⟨v, hv, hv0, hle⟩ := exists_denotes_toFloat_le (by norm_num) hseconds
    exact ⟨v, hv, hv0, hle.trans_lt (by norm_num)⟩

end Duration

end TokenBridge
