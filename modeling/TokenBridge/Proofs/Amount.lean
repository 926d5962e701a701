import Mathlib.Algebra.Order.Ring.Nat
import Mathlib.Order.Bounds.Defs
import TokenBridge.Proofs.Outcome

/-!
# Amounts over the naturals

What the scaling of amounts computes, without words and overflow. An amount counted with
more decimals is multiplied by a power of ten, and there is such a count exactly if it
`FitsAt` the new decimals. An amount that is trimmed and counted back has been `rounded`, so an
amount that is split for a transfer is the sum of its trimmed form and its dust (`split_eq_ok`).
A split fails only if there are too many digits to take away (`split_eq_error`).
-/

namespace TokenBridge

namespace Amount

/-- What `units` become with `up` decimals more. -/
def scaledUp (units : UInt64) (up : Nat) : Nat := units.toNat * 10 ^ up

theorem scaledUp_mul_power {units : UInt64} {up down k l : Nat} (h : up + k = down + l) :
    scaledUp units up * 10 ^ k = scaledUp units down * 10 ^ l := by
  rw [scaledUp, scaledUp, Nat.mul_assoc, Nat.mul_assoc, ← pow_add, ← pow_add, h]

/-- The amount can be counted with these decimals, which are no fewer than its own. -/
def FitsAt (a : Amount) (decimals : UInt8) : Prop :=
  decimals.toNat - a.decimals.toNat ≤ 19 ∧
    scaledUp a.units (decimals.toNat - a.decimals.toNat) < UInt64.size

instance (a : Amount) (decimals : UInt8) : Decidable (a.FitsAt decimals) :=
  inferInstanceAs (Decidable (_ ∧ _))

theorem power_lt {k : Nat} (h : k ≤ 19) : 10 ^ k < UInt64.size := calc
  10 ^ k ≤ 10 ^ 19 := Nat.pow_le_pow_right (by decide) h
  _ < UInt64.size := by decide

theorem exists_power {k : Nat} (h : k ≤ 19) : ∃ p : UInt64, p.toNat = 10 ^ k :=
  ⟨UInt64.ofNat (10 ^ k), by rw [UInt64.toNat_ofNat', Nat.mod_eq_of_lt (power_lt h)]⟩

theorem powerOfTen_eq_ok {exponent : UInt8} {n : UInt64} :
    powerOfTen exponent = .ok n ↔ exponent.toNat ≤ 19 ∧ n.toNat = 10 ^ exponent.toNat := by
  have hle : exponent ≤ 19 ↔ exponent.toNat ≤ 19 := UInt8.le_iff_toNat_le
  unfold powerOfTen
  by_cases h : exponent.toNat ≤ 19
  · rw [if_pos (hle.2 h), Except.ok.injEq, ← UInt64.toNat_inj, UInt64.toNat_ofNat',
      show Nat.pow 10 exponent.toNat = 10 ^ exponent.toNat from rfl, Nat.mod_eq_of_lt (power_lt h)]
    exact ⟨fun heq => ⟨h, heq.symm⟩, fun heq => heq.2.symm⟩
  · rw [if_neg (fun hc => h (hle.1 hc))]
    simp [h]

theorem powerOfTen_eq_error {exponent : UInt8} {fault : ScalingFault} :
    powerOfTen exponent = .error fault ↔ 19 < exponent.toNat ∧ fault = .exponent := by
  have hle : exponent ≤ 19 ↔ exponent.toNat ≤ 19 := UInt8.le_iff_toNat_le
  unfold powerOfTen
  rw [← Nat.not_le, ← hle]
  by_cases h : exponent ≤ 19 <;> simp [h, eq_comm]

/-- Scaling up multiplies, and fails only if the power of ten or the product is no word. -/
theorem rescale_up_eq_ok {units n : UInt64} {source target : UInt8} (h : source ≤ target) :
    rescale units source target = .ok n ↔ FitsAt ⟨units, source⟩ target ∧
      n.toNat = scaledUp units (target.toNat - source.toNat) := by
  have hle : source.toNat ≤ target.toNat := UInt8.le_iff_toNat_le.1 h
  unfold rescale FitsAt scaledUp
  by_cases heq : source = target
  · subst heq
    have hlt := units.toNat_lt
    simp only [↓reduceIte, Except.ok.injEq, Nat.sub_self, pow_zero, mul_one, ← UInt64.toNat_inj]
    constructor
    · intro hn
      exact ⟨⟨by omega, by simpa using hlt⟩, hn.symm⟩
    · intro hn
      exact hn.2.symm
  · have hsub : (target - source).toNat = target.toNat - source.toNat :=
      UInt8.toNat_sub_of_le _ _ h
    rw [if_neg heq, if_neg (UInt8.not_lt.2 h)]
    simp only [bind_eq_ok, powerOfTen_eq_ok, hsub]
    constructor
    · rintro ⟨p, ⟨hexp, hp⟩, hn⟩
      split at hn
      · rename_i m hm
        cases hn
        rw [Word.mul?_eq_some, hp] at hm
        exact ⟨⟨hexp, hm ▸ n.toNat_lt⟩, hm⟩
      · cases hn
    · rintro ⟨⟨hexp, hlt⟩, hn⟩
      obtain ⟨p, hp⟩ := exists_power hexp
      have hm : Word.mul? units p = some n := Word.mul?_eq_some.2 (by rw [hp]; exact hn)
      refine ⟨p, ⟨hexp, hp⟩, ?_⟩
      rw [hm]
      rfl

/-- Scaling down truncates, and fails only if the power of ten is no word. -/
theorem rescale_down_eq_ok {units n : UInt64} {source target : UInt8} (h : target ≤ source) :
    rescale units source target = .ok n ↔ source.toNat - target.toNat ≤ 19 ∧
      n.toNat = units.toNat / 10 ^ (source.toNat - target.toNat) := by
  unfold rescale
  by_cases heq : source = target
  · subst heq
    simp only [↓reduceIte, Except.ok.injEq, Nat.sub_self, pow_zero, Nat.div_one, ← UInt64.toNat_inj]
    constructor
    · intro hn
      exact ⟨by omega, hn.symm⟩
    · intro hn
      exact hn.2.symm
  · have hlt : target < source := UInt8.lt_of_le_of_ne h (Ne.symm heq)
    have hsub : (source - target).toNat = source.toNat - target.toNat :=
      UInt8.toNat_sub_of_le _ _ h
    rw [if_neg heq, if_pos hlt]
    simp only [bind_eq_ok, pure_eq_ok, powerOfTen_eq_ok, hsub]
    constructor
    · rintro ⟨p, ⟨hexp, hp⟩, rfl⟩
      exact ⟨hexp, by rw [UInt64.toNat_div, hp]⟩
    · rintro ⟨hexp, hn⟩
      obtain ⟨p, hp⟩ := exists_power hexp
      refine ⟨p, ⟨hexp, hp⟩, ?_⟩
      rw [← UInt64.toNat_inj, UInt64.toNat_div, hp, hn]

/-- Scaling down has no other fault than the power of ten. -/
theorem rescale_down_eq_error {units : UInt64} {source target : UInt8} {fault : ScalingFault}
    (h : target ≤ source) :
    rescale units source target = .error fault ↔
      19 < source.toNat - target.toNat ∧ fault = .exponent := by
  unfold rescale
  by_cases heq : source = target
  · subst heq
    simp
  · have hlt : target < source := UInt8.lt_of_le_of_ne h (Ne.symm heq)
    rw [if_neg heq, if_pos hlt, ← UInt8.toNat_sub_of_le _ _ h]
    simp only [bind_eq_error, pure_eq_error, powerOfTen_eq_error, and_false, exists_false, or_false]

theorem untrim_eq_ok {a : Amount} {decimals : UInt8} {n : UInt64} (h : a.decimals ≤ decimals) :
    a.untrim decimals = .ok n ↔ a.FitsAt decimals ∧
      n.toNat = scaledUp a.units (decimals.toNat - a.decimals.toNat) := rescale_up_eq_ok h

/-- An amount has a count at more decimals exactly if it fits there. -/
theorem exists_untrim_iff {a : Amount} {decimals : UInt8} (h : a.decimals ≤ decimals) :
    (∃ n, a.untrim decimals = .ok n) ↔ a.FitsAt decimals := by
  constructor
  · rintro ⟨n, hn⟩
    exact ((untrim_eq_ok h).1 hn).1
  · intro hfit
    refine ⟨UInt64.ofNat (scaledUp a.units (decimals.toNat - a.decimals.toNat)),
      (untrim_eq_ok h).2 ⟨hfit, ?_⟩⟩
    rw [UInt64.toNat_ofNat', Nat.mod_eq_of_lt hfit.2]

theorem withDecimals_eq_ok {a b : Amount} {target : UInt8} :
    a.withDecimals target = .ok b ↔ b.decimals = target ∧ a.untrim target = .ok b.units := by
  simp only [withDecimals, bind_eq_ok, pure_eq_ok]
  constructor
  · rintro ⟨units, hunits, rfl⟩
    exact ⟨rfl, hunits⟩
  · rintro ⟨rfl, hunits⟩
    exact ⟨b.units, hunits, rfl⟩

/-! ## Trimming -/

/-- How many digits of an amount have to go before it crosses. -/
def lostDigits (source target cap : UInt8) : Nat :=
  source.toNat - min cap.toNat (min source.toNat target.toNat)

theorem sub_sharedDecimals (source target cap : UInt8) :
    source.toNat - (sharedDecimals source target cap).toNat = lostDigits source target cap := by
  rw [lostDigits, sharedDecimals, UInt8.toNat_min, UInt8.toNat_min, Nat.min_assoc]

theorem sharedDecimals_le_source (source target cap : UInt8) :
    sharedDecimals source target cap ≤ source :=
  UInt8.le_trans Std.min_le_left Std.min_le_right

/-- Trimming truncates to the shared decimals. -/
theorem trim_eq_ok {units : UInt64} {source target cap : UInt8} {a : Amount} :
    trim units source target cap = .ok a ↔
      a.decimals = sharedDecimals source target cap ∧
      source.toNat - a.decimals.toNat ≤ 19 ∧
      a.units.toNat = units.toNat / 10 ^ (source.toNat - a.decimals.toNat) := by
  have hshared := sharedDecimals_le_source source target cap
  simp only [trim, bind_eq_ok, pure_eq_ok, rescale_down_eq_ok hshared]
  constructor
  · rintro ⟨n, hn, rfl⟩
    exact ⟨rfl, hn⟩
  · rintro ⟨hdec, hn⟩
    rw [hdec] at hn
    exact ⟨a.units, hn, by rw [← hdec]⟩

theorem trim_eq_error {units : UInt64} {source target cap : UInt8} {fault : ScalingFault} :
    trim units source target cap = .error fault ↔
      19 < source.toNat - (sharedDecimals source target cap).toNat ∧ fault = .exponent := by
  simp only [trim, bind_eq_error, pure_eq_error, and_false, exists_false, or_false]
  exact rescale_down_eq_error (sharedDecimals_le_source source target cap)

theorem decimals_le_of_trim {units : UInt64} {source target cap : UInt8} {a : Amount}
    (h : trim units source target cap = .ok a) : a.decimals ≤ source := by
  rw [(trim_eq_ok.1 h).1]
  exact sharedDecimals_le_source source target cap

/-- What is left after trimming can be counted with the source decimals again, and with all in
between: trimming has taken away as many digits as come back. -/
theorem fitsAt_of_trim {units : UInt64} {source target cap decimals : UInt8} {a : Amount}
    (h : trim units source target cap = .ok a) (hle : decimals ≤ source) : a.FitsAt decimals := by
  obtain ⟨-, hexp, hunits⟩ := trim_eq_ok.1 h
  rw [UInt8.le_iff_toNat_le] at hle
  refine ⟨by omega, ?_⟩
  calc scaledUp a.units (decimals.toNat - a.decimals.toNat)
    _ ≤ scaledUp a.units (source.toNat - a.decimals.toNat) :=
        Nat.mul_le_mul_left _ (Nat.pow_le_pow_right (by decide) (by omega))
    _ ≤ units.toNat := by
        rw [scaledUp, hunits]
        exact Nat.div_mul_le_self ..
    _ < UInt64.size := units.toNat_lt

theorem exists_untrim_of_trim {units : UInt64} {source target cap decimals : UInt8} {a : Amount}
    (h : trim units source target cap = .ok a) (hlow : a.decimals ≤ decimals)
    (hhigh : decimals ≤ source) : ∃ n, a.untrim decimals = .ok n :=
  (exists_untrim_iff hlow).2 (fitsAt_of_trim h hhigh)

/-- An amount with zeros for its last digits. -/
def rounded (units digits : Nat) : Nat := units / 10 ^ digits * 10 ^ digits

theorem rounded_le (units digits : Nat) : rounded units digits ≤ units := Nat.div_mul_le_self ..

theorem lt_rounded_add (units digits : Nat) : units < rounded units digits + 10 ^ digits :=
  Nat.lt_div_mul_add (Nat.pow_pos (by decide))

theorem isGreatest_rounded (units digits : Nat) :
    IsGreatest {n | 10 ^ digits ∣ n ∧ n ≤ units} (rounded units digits) := by
  refine ⟨⟨Nat.dvd_mul_left .., rounded_le ..⟩, ?_⟩
  rintro n ⟨⟨c, rfl⟩, hle⟩
  have hc : c ≤ units / 10 ^ digits :=
    (Nat.le_div_iff_mul_le (Nat.pow_pos (by decide))).2 (by rwa [Nat.mul_comm])
  rw [Nat.mul_comm]
  exact Nat.mul_le_mul_right _ hc

/-- Counted back in the source decimals, a trimmed amount has been rounded. -/
theorem kept_eq_rounded {units kept : UInt64} {source target cap : UInt8} {a : Amount}
    (htrim : trim units source target cap = .ok a) (hkept : a.untrim source = .ok kept) :
    kept.toNat = rounded units.toNat (source.toNat - a.decimals.toNat) := by
  rw [((untrim_eq_ok (decimals_le_of_trim htrim)).1 hkept).2, scaledUp, (trim_eq_ok.1 htrim).2.2,
    rounded]

/-- Up to 19 digits can be taken away. -/
theorem exists_kept (units : UInt64) {source target cap : UInt8}
    (h : lostDigits source target cap ≤ 19) : ∃ a kept, trim units source target cap = .ok a ∧
      a.untrim source = .ok kept ∧
      kept.toNat = rounded units.toNat (lostDigits source target cap) := by
  cases htrim : trim units source target cap with
  | error fault =>
    have hmany := (trim_eq_error.1 htrim).1
    rw [sub_sharedDecimals] at hmany
    omega
  | ok a =>
    obtain ⟨kept, hkept⟩ :=
      exists_untrim_of_trim htrim (decimals_le_of_trim htrim) (UInt8.le_refl _)
    refine ⟨a, kept, rfl, hkept, ?_⟩
    rw [kept_eq_rounded htrim hkept, (trim_eq_ok.1 htrim).1, sub_sharedDecimals]

/-! ## Splitting -/

/-- A split amount is its trimmed form, counted in the source decimals, and its dust, which is
less than one unit of the trimmed form. -/
theorem split_eq_ok {units dust : UInt64} {source target cap : UInt8} {trimmed : Amount}
    (h : split units source target cap = .ok (trimmed, dust)) :
    trim units source target cap = .ok trimmed ∧ trimmed.decimals ≤ source ∧
      units.toNat = scaledUp trimmed.units (source.toNat - trimmed.decimals.toNat) + dust.toNat ∧
      dust.toNat < 10 ^ (source.toNat - trimmed.decimals.toNat) := by
  simp only [split, bind_eq_ok, pure_eq_ok, Prod.mk.injEq] at h
  obtain ⟨a, htrim, kept, hkept, rfl, rfl⟩ := h
  have hdec := decimals_le_of_trim htrim
  have hscaled := ((untrim_eq_ok hdec).1 hkept).2
  have hrounded := kept_eq_rounded htrim hkept
  have hle := rounded_le units.toNat (source.toNat - a.decimals.toNat)
  have hlt := lt_rounded_add units.toNat (source.toNat - a.decimals.toNat)
  have hdust := UInt64.toNat_sub_of_le units kept (by rwa [UInt64.le_iff_toNat_le, hrounded])
  exact ⟨htrim, hdec, by omega, by omega⟩

/-- A split fails only in the trimming: what that leaves is counted back without fault. -/
theorem split_eq_error {units : UInt64} {source target cap : UInt8} {fault : ScalingFault} :
    split units source target cap = .error fault ↔
      19 < source.toNat - (sharedDecimals source target cap).toNat ∧ fault = .exponent := by
  simp only [split, bind_eq_error, pure_eq_error, and_false, exists_false, or_false, trim_eq_error]
  refine or_iff_left ?_
  rintro ⟨a, htrim, herr⟩
  obtain ⟨n, hn⟩ := exists_untrim_of_trim htrim (decimals_le_of_trim htrim) (UInt8.le_refl _)
  rw [hn] at herr
  cases herr

/-- An amount counted with more decimals is worth the same. -/
theorem scaledUp_withDecimals {a b : Amount} {target wide : UInt8} (hle : a.decimals ≤ target)
    (hw : target ≤ wide) (h : a.withDecimals target = .ok b) :
    scaledUp b.units (wide.toNat - target.toNat) =
      scaledUp a.units (wide.toNat - a.decimals.toNat) := by
  have hunits := ((untrim_eq_ok hle).1 (withDecimals_eq_ok.1 h).2).2
  rw [UInt8.le_iff_toNat_le] at hle hw
  have hsum : (target.toNat - a.decimals.toNat) + (wide.toNat - target.toNat) =
      wide.toNat - a.decimals.toNat := by omega
  rw [scaledUp, hunits, scaledUp, scaledUp, Nat.mul_assoc, ← pow_add, hsum]

/-- An amount counted with fewer decimals loses what is less than a unit there, so it is worth no
more than before, and as much only if nothing was lost. -/
theorem withDecimals_worth {a b : Amount} {target wide : UInt8} {n : UInt64} (hw : target ≤ wide)
    (ha : a.decimals ≤ wide) (hb : a.withDecimals target = .ok b) (hn : a.untrim wide = .ok n) :
    let scale := 10 ^ (wide.toNat - target.toNat)
    b.units.toNat * scale ≤ n.toNat ∧ n.toNat < (b.units.toNat + 1) * scale ∧
      (b.units.toNat * scale = n.toNat ↔
        10 ^ (a.decimals.toNat - target.toNat) ∣ a.units.toNat) := by
  intro scale
  have hvalue := ((untrim_eq_ok ha).1 hn).2
  rcases UInt8.le_total a.decimals target with hle | hle
  · have heq : b.units.toNat * scale = n.toNat :=
      (scaledUp_withDecimals hle hw hb).trans hvalue.symm
    have hpos : 0 < scale := Nat.pow_pos (by decide)
    refine ⟨heq.le, ?_, fun _ => ?_, fun _ => heq⟩
    · rw [Nat.add_mul]
      omega
    · rw [Nat.sub_eq_zero_of_le (UInt8.le_iff_toNat_le.1 hle)]
      exact one_dvd _
  · have hdown := ((rescale_down_eq_ok hle).1 (withDecimals_eq_ok.1 hb).2).2
    rw [UInt8.le_iff_toNat_le] at hw ha hle
    set lost := 10 ^ (a.decimals.toNat - target.toNat) with hlost
    set rest := 10 ^ (wide.toNat - a.decimals.toNat) with hrest
    have hscale : scale = lost * rest := by
      have hsum : wide.toNat - target.toNat =
          (a.decimals.toNat - target.toNat) + (wide.toNat - a.decimals.toNat) := by omega
      rw [hlost, hrest, ← pow_add, ← hsum]
    have hposlost : 0 < lost := Nat.pow_pos (by decide)
    have hposrest : 0 < rest := Nat.pow_pos (by decide)
    rw [hdown, hvalue, scaledUp, hscale, ← Nat.mul_assoc, ← Nat.mul_assoc]
    refine ⟨Nat.mul_le_mul_right rest (Nat.div_mul_le_self ..),
      Nat.mul_lt_mul_of_pos_right ?_ hposrest, ?_⟩
    · rw [Nat.add_mul, Nat.one_mul]
      exact Nat.lt_div_mul_add hposlost
    · rw [Nat.mul_left_inj hposrest.ne']
      exact ⟨fun h => Dvd.intro_left _ h, Nat.div_mul_cancel⟩

end Amount

end TokenBridge
