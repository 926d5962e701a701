import Mathlib
import TokenBridge.Duration

/-!
# The numbers that doubles stand for

A double `Denotes` an extended real number, unless it is missing. Doubles are compared exponent
first, and that is right because they are `Canonical`: a mantissa fills its 53 bits, or the
exponent is the least. So the order on doubles is that of the numbers (`Denotes.lt_iff`,
`Denotes.le_iff`), and a canonical number that is not too large survives packing
(`real?_pack`).
-/

namespace TokenBridge.Binary64

open Float.Model Float.Model.UnpackedFloat

/-- Mantissa and exponent of a finite double other than zero. -/
structure Canonical (m : ℕ) (e : ℤ) : Prop where
  mantissa_lt : m < 2 ^ 53
  least : -1074 ≤ e
  normal : 2 ^ 52 ≤ m ∨ e = -1074

noncomputable def real? : UnpackedFloat → Option EReal
  | .notANumber => none
  | .infinity .positive => some ⊤
  | .infinity .negative => some ⊥
  | .zero _ => some (0 : ℝ)
  | .finite s m e _ => some (s.apply m * 2 ^ e : ℝ)

theorem real?_positive {m : ℕ} {e : ℤ} (hm : 0 < m) :
    real? (.finite .positive m e hm) = some ((m * 2 ^ e : ℝ) : EReal) := by
  simp [real?, Sign.apply]

def Denotes (x : Float) (a : EReal) : Prop := real? x.toModel.unpack = some a

theorem denotes_of_unpack {x : Float} {m : ℕ} {e : ℤ} {v : ℝ} (hm : 0 < m)
    (hx : x.toModel.unpack = .finite .positive m e hm) (hv : m * 2 ^ e = v) : Denotes x v := by
  rw [Denotes, hx, real?_positive, hv]

theorem Denotes.unique {x : Float} {v w : ℝ} (hv : Denotes x v) (hw : Denotes x w) : v = w :=
  EReal.coe_injective (Option.some.inj (hv.symm.trans hw))

/-! ## Unpacking -/

theorem bias_eq : (Format.binary64.exponentBias : ℤ) = 1023 := rfl

theorem width_eq : (Format.binary64.mantissaBitsWithoutImplicit : ℤ) = 52 := rfl

theorem append_implicit {n : ℕ} (mantissa : BitVec n) :
    (1#1 ++ mantissa).toNat = 2 ^ n + mantissa.toNat := by
  rw [BitVec.toNat_append, ← Nat.shiftLeft_add_eq_or_of_lt mantissa.isLt]
  simp [Nat.shiftLeft_eq]

theorem canonical_unpack {x : Float.Model} {s : Sign} {m : ℕ} {e : ℤ} {h : 0 < m}
    (hx : x.unpack = .finite s m e h) : Canonical m e ∧ e ≤ 971 := by
  revert hx
  unfold Float.Model.unpack UnpackedFloat.unpack
  extract_lets mantissa exponent
  have hbias := bias_eq
  have hwidth := width_eq
  have hmantissa : mantissa.toNat < 2 ^ 52 := mantissa.isLt
  have hexponent : exponent.toNat < 2 ^ 11 := exponent.isLt
  split
  · split <;> simp
  · next hfinite =>
    have hmost : exponent.toNat ≠ 2047 := fun h => hfinite (BitVec.eq_of_toNat_eq h)
    split
    · split
      · simp
      · next hzero hpos =>
        have hleast : exponent.toNat = 0 := by rw [hzero]; rfl
        simp only [finite.injEq, and_imp]
        rintro - rfl rfl
        refine ⟨⟨?_, ?_, .inr ?_⟩, ?_⟩ <;> omega
    · next hnormal =>
      have hpos : exponent.toNat ≠ 0 := fun h => hnormal (BitVec.eq_of_toNat_eq h)
      have hbits : (1#1 ++ mantissa).toNat = 2 ^ 52 + mantissa.toNat := append_implicit mantissa
      simp only [finite.injEq, and_imp]
      rintro - rfl rfl
      refine ⟨⟨?_, ?_, .inl ?_⟩, ?_⟩ <;> omega

theorem unpack_pack_finite {s : Sign} {m : ℕ} {e : ℤ} (hm : 0 < m) (h : Canonical m e)
    (he : e ≤ 971) : (Float.Model.pack (.finite s m e hm)).unpack = .finite s m e hm := by
  have hbias := bias_eq
  have hwidth := width_eq
  have hleast := h.least
  have hlt := h.mantissa_lt
  have hbiased : (e + Format.binary64.exponentBias
      + Format.binary64.mantissaBitsWithoutImplicit).toNat = (e + 1075).toNat := by omega
  have hroom : ¬ 2 ^ Format.binary64.exponentBits ≤ (e + 1075).toNat + 1 := by
    show ¬ 2048 ≤ _
    omega
  have hexponent : (BitVec.ofNat 11 (e + 1075).toNat).toNat = (e + 1075).toNat := by
    rw [BitVec.toNat_ofNat]
    omega
  have hfinite : BitVec.ofNat 11 (e + 1075).toNat ≠ -1#11 := by
    rw [ne_eq, ← BitVec.toNat_inj, hexponent]
    show ¬ _ = 2047
    omega
  have hpos : BitVec.ofNat 11 (e + 1075).toNat ≠ 0#11 := by
    rw [ne_eq, ← BitVec.toNat_inj, hexponent]
    show ¬ _ = 0
    omega
  simp only [Float.Model.unpack, Float.Model.pack, UnpackedFloat.pack, hbiased, if_neg hroom]
  split
  · next hlog =>
    have hnormal : 2 ^ 52 ≤ m := ((Nat.log2_eq_iff hm.ne').1 (Nat.succ.inj hlog)).1
    have hmantissa : (1#1 ++ BitVec.ofNat 52 m).toNat = m := by
      rw [append_implicit, BitVec.toNat_ofNat]
      omega
    simp only [UnpackedFloat.unpack, unpackMantissa_packComponents, unpackExponent_packComponents,
      unpackSign_packComponents, Sign.ofBitVec_toBitVec]
    rw [if_neg hfinite, if_neg hpos]
    simp only [hmantissa, hexponent]
    congr 1
    omega
  · next hlog =>
    have hsub : m < 2 ^ 52 := by
      by_contra hnormal
      exact hlog (congrArg (· + 1) ((Nat.log2_eq_iff hm.ne').2 ⟨by omega, hlt⟩))
    have hmin : e = -1074 := h.normal.resolve_left (by omega)
    have hmantissa : (BitVec.ofNat 52 m).toNat = m := by
      rw [BitVec.toNat_ofNat]
      omega
    have hne : BitVec.ofNat 52 m ≠ 0#52 := by
      rw [ne_eq, ← BitVec.toNat_inj, hmantissa]
      exact hm.ne'
    simp only [UnpackedFloat.unpack, unpackMantissa_packComponents, unpackExponent_packComponents,
      unpackSign_packComponents, Sign.ofBitVec_toBitVec]
    rw [if_neg (by decide), if_pos trivial, dif_neg hne]
    simp only [hmantissa, hmin]
    congr 1

/-- The largest power of two that is a double bounds the exponent. -/
theorem Canonical.exponent_le {m : ℕ} {e : ℤ} (h : Canonical m e)
    (hmax : (m : ℝ) * 2 ^ e ≤ 2 ^ (1023 : ℤ)) : e ≤ 971 := by
  rcases h.normal with hnormal | hmin
  · have hnormal : (2 : ℝ) ^ 52 ≤ m := by exact_mod_cast hnormal
    have hpow : (2 : ℝ) ^ (52 + e) ≤ 2 ^ (1023 : ℤ) := by
      calc (2 : ℝ) ^ (52 + e) = 2 ^ 52 * 2 ^ e := by rw [zpow_add₀ two_ne_zero]; norm_cast
        _ ≤ m * 2 ^ e := by gcongr
        _ ≤ 2 ^ (1023 : ℤ) := hmax
    have := (zpow_le_zpow_iff_right₀ (one_lt_two (α := ℝ))).1 hpow
    omega
  · omega

theorem real?_pack_zero (s : Sign) :
    real? (Float.Model.pack (.zero s)).unpack = some ((0 : ℝ) : EReal) := by
  cases s <;> rfl

theorem real?_pack {m : ℕ} {e : ℤ} (hm : 0 < m) (h : Canonical m e)
    (hmax : (m : ℝ) * 2 ^ e ≤ 2 ^ (1023 : ℤ)) :
    real? (Float.Model.pack (.finite .positive m e hm)).unpack =
      some ((m * 2 ^ e : ℝ) : EReal) := by
  rw [unpack_pack_finite hm h (h.exponent_le hmax), real?_positive]

theorem pack_unpack_model (x : Float.Model) : Float.Model.pack x.unpack = x := by
  have hbits : (Float.Model.pack x.unpack).toBits = x.toBits :=
    UInt64.toBitVec_inj.1 (pack_unpack_of_valid x.valid)
  exact (Float.Model.mk.injEq ..).mpr hbits

theorem Denotes.cases_of_nonneg {x : Float} {v : ℝ} (h : Denotes x v) (hv : 0 ≤ v) :
    (v = 0 ∧ ∃ s, x.toModel.unpack = .zero s) ∨
      ∃ m e hm, x.toModel.unpack = .finite .positive m e hm ∧ v = m * 2 ^ e := by
  unfold Denotes at h
  generalize x.toModel.unpack = u at h
  cases u with
  | notANumber => cases h
  | infinity s => cases s <;> simp [real?] at h
  | zero s => exact .inl ⟨(EReal.coe_injective (Option.some.inj h)).symm, s, rfl⟩
  | finite s m e hm =>
    cases s with
    | negative =>
      have hvalue := EReal.coe_injective (Option.some.inj h)
      have : (0 : ℝ) < m * 2 ^ e := by positivity
      simp [Sign.apply] at hvalue
      linarith
    | positive =>
      rw [real?_positive] at h
      exact .inr ⟨m, e, hm, rfl, (EReal.coe_injective (Option.some.inj h)).symm⟩

theorem exists_denotes_of_not_isNaN {x : Float} (h : x.isNaN = false) : ∃ a, Denotes x a := by
  unfold Denotes
  change x.toModel.unpack.isNaN = false at h
  generalize x.toModel.unpack = u at h ⊢
  cases u with
  | notANumber => cases h
  | infinity s => cases s <;> exact ⟨_, rfl⟩
  | zero s => exact ⟨_, rfl⟩
  | finite s m e hm => exact ⟨_, rfl⟩

theorem unpack_of_isNaN {x : Float} (h : x.isNaN = true) : x.toModel.unpack = .notANumber :=
  isNaN_iff.1 h

theorem Denotes.isNaN {x : Float} {a : EReal} (h : Denotes x a) : x.isNaN = false := by
  unfold Denotes at h
  show x.toModel.unpack.isNaN = false
  generalize x.toModel.unpack = u at h ⊢
  cases u with
  | notANumber => cases h
  | _ => rfl

/-! ## Order -/

theorem coe_compares {o : Ordering} {a b : ℝ} (h : o.Compares a b) :
    o.Compares (a : EReal) (b : EReal) := by
  cases o with
  | lt => exact EReal.coe_lt_coe_iff.2 h
  | eq => exact congrArg _ h
  | gt => exact EReal.coe_lt_coe_iff.2 h

theorem compares_neg {o : Ordering} {a b : ℝ} (h : o.Compares a b) :
    o.swap.Compares (-a) (-b) := by
  cases o with
  | lt => exact neg_lt_neg h
  | eq => exact congrArg _ h
  | gt => exact neg_lt_neg h

/-- A number with the larger exponent has a full mantissa. -/
theorem Canonical.lt {m n : ℕ} {e f : ℤ} (hm : Canonical m e) (hn : Canonical n f) (hef : e < f) :
    (m : ℝ) * 2 ^ e < n * 2 ^ f := by
  have hmantissa : (m : ℝ) < 2 ^ 53 := by exact_mod_cast hm.mantissa_lt
  have hnormal : (2 : ℝ) ^ 52 ≤ n := by
    have := hn.normal.resolve_right (by have := hm.least; omega)
    exact_mod_cast this
  calc (m : ℝ) * 2 ^ e < 2 ^ 53 * 2 ^ e := by gcongr
    _ = 2 ^ 52 * 2 ^ (e + 1) := by rw [zpow_add_one₀ two_ne_zero]; ring
    _ ≤ n * 2 ^ f := by gcongr <;> first | omega | norm_num

theorem Canonical.compares {m n : ℕ} {e f : ℤ} (hm : Canonical m e) (hn : Canonical n f) :
    ((compare e f).then (compare m n)).Compares ((m : ℝ) * 2 ^ e) (n * 2 ^ f) := by
  rcases lt_trichotomy e f with hef | rfl | hef
  · rw [Int.compare_eq_lt.2 hef]
    exact hm.lt hn hef
  · rw [Int.compare_eq_eq.2 rfl]
    rcases lt_trichotomy m n with hmn | rfl | hmn
    · rw [Nat.compare_eq_lt.2 hmn]
      show (m : ℝ) * 2 ^ e < n * 2 ^ e
      gcongr
    · rw [Nat.compare_eq_eq.2 rfl]
      rfl
    · rw [Nat.compare_eq_gt.2 hmn]
      show (n : ℝ) * 2 ^ e < m * 2 ^ e
      gcongr
  · rw [Int.compare_eq_gt.2 hef]
    exact hn.lt hm hef

theorem exists_compares {x y : Float} {a b : EReal} (hx : Denotes x a) (hy : Denotes y b) :
    ∃ o : Ordering, x.toModel.unpack.compare y.toModel.unpack = some o ∧ o.Compares a b := by
  unfold Denotes at hx hy
  have hpos {m : ℕ} {e : ℤ} (hm : 0 < m) : (0 : ℝ) < m * 2 ^ e := by positivity
  have hu := @canonical_unpack x.toModel
  have hw := @canonical_unpack y.toModel
  generalize x.toModel.unpack = u at hx hu
  generalize y.toModel.unpack = w at hy hw
  cases u with
  | notANumber => cases hx
  | infinity s =>
    cases w with
    | notANumber => cases hy
    | infinity s' =>
      cases s <;> cases s' <;> cases hx <;> cases hy <;> exact ⟨_, rfl, by simp [compare]⟩
    | zero s' => cases s <;> cases hx <;> cases hy <;> exact ⟨_, rfl, by simp⟩
    | finite s' n f hn =>
      cases s <;> cases hx <;> cases hy
      · exact ⟨_, rfl, EReal.bot_lt_coe _⟩
      · exact ⟨_, rfl, EReal.coe_lt_top _⟩
  | zero s =>
    cases hx
    cases w with
    | notANumber => cases hy
    | infinity s' => cases s' <;> cases hy <;> exact ⟨_, rfl, by simp⟩
    | zero s' =>
      cases hy
      exact ⟨_, rfl, rfl⟩
    | finite s' n f hn =>
      cases s' <;> cases hy <;>
        exact ⟨_, rfl, coe_compares (by simpa [Sign.apply] using hpos hn)⟩
  | finite s m e hm =>
    cases w with
    | notANumber => cases hy
    | infinity s' =>
      cases s' <;> cases hx <;> cases hy
      · exact ⟨_, rfl, EReal.bot_lt_coe _⟩
      · exact ⟨_, rfl, EReal.coe_lt_top _⟩
    | zero s' =>
      cases s <;> cases hx <;> cases hy <;>
        exact ⟨_, rfl, coe_compares (by simpa [Sign.apply] using hpos hm)⟩
    | finite s' n f hn =>
      have hcompares := (hu rfl).1.compares (hw rfl).1
      have hm := @hpos m e hm
      have hn := @hpos n f hn
      cases s <;> cases s' <;> cases hx <;> cases hy <;> refine ⟨_, rfl, coe_compares ?_⟩
      · simpa [Sign.apply] using compares_neg hcompares
      · simp [Sign.apply]
        linarith
      · simp [Sign.apply]
        linarith
      · simpa [Sign.apply] using hcompares

section
variable {x y : Float} {a b : EReal}

theorem Denotes.lt_iff (hx : Denotes x a) (hy : Denotes y b) : x < y ↔ a < b := by
  obtain ⟨o, ho, hcompares⟩ := exists_compares hx hy
  rw [← hcompares.eq_lt]
  show decide (x.toModel.unpack.compare y.toModel.unpack == some .lt) = true ↔ _
  rw [ho]
  simp

theorem Denotes.le_iff (hx : Denotes x a) (hy : Denotes y b) : x ≤ y ↔ a ≤ b := by
  obtain ⟨o, ho, hcompares⟩ := exists_compares hx hy
  rw [← hcompares.ne_gt]
  show decide ((x.toModel.unpack.compare y.toModel.unpack).any (·.isLE)) = true ↔ _
  rw [ho]
  cases o <;> simp

theorem exists_denotes_of_compare {o : Option Ordering}
    (h : x.toModel.unpack.compare y.toModel.unpack = o) (ho : o ≠ none) :
    (∃ a, Denotes x a) ∧ ∃ b, Denotes y b := by
  subst h
  unfold Denotes
  generalize x.toModel.unpack = u at ho ⊢
  generalize y.toModel.unpack = w at ho ⊢
  have hreal {u : UnpackedFloat} (hu : u ≠ .notANumber) : ∃ a, real? u = some a := by
    cases u with
    | notANumber => exact absurd rfl hu
    | infinity s => cases s <;> exact ⟨_, rfl⟩
    | zero s => exact ⟨_, rfl⟩
    | finite s m e hm => exact ⟨_, rfl⟩
  refine ⟨hreal ?_, hreal ?_⟩
  · rintro rfl
    exact ho rfl
  · rintro rfl
    refine ho ?_
    cases u with
    | infinity s => cases s <;> rfl
    | finite s m e hm => cases s <;> rfl
    | _ => rfl

theorem exists_denotes_of_lt (h : x < y) : (∃ a, Denotes x a) ∧ ∃ b, Denotes y b := by
  refine exists_denotes_of_compare rfl fun hnone => ?_
  change decide (x.toModel.unpack.compare y.toModel.unpack == some .lt) = true at h
  rw [hnone] at h
  simp at h

theorem exists_denotes_of_le (h : x ≤ y) : (∃ a, Denotes x a) ∧ ∃ b, Denotes y b := by
  refine exists_denotes_of_compare rfl fun hnone => ?_
  change decide ((x.toModel.unpack.compare y.toModel.unpack).any (·.isLE)) = true at h
  rw [hnone] at h
  simp at h

theorem exists_denotes_of_beq (h : (x == y) = true) :
    (∃ a, Denotes x a) ∧ ∃ b, Denotes y b := by
  refine exists_denotes_of_compare rfl fun hnone => ?_
  change (x.toModel.unpack.compare y.toModel.unpack == some .eq) = true at h
  rw [hnone] at h
  cases h

theorem Denotes.beq_iff (hx : Denotes x a) (hy : Denotes y b) : (x == y) = true ↔ a = b := by
  obtain ⟨o, ho, hcompares⟩ := exists_compares hx hy
  rw [← hcompares.eq_eq]
  show (x.toModel.unpack.compare y.toModel.unpack == some .eq) = true ↔ _
  rw [ho]
  simp

end

end TokenBridge.Binary64
