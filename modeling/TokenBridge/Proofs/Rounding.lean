import TokenBridge.Proofs.Binary64

/-!
# Rounded arithmetic

Each operation on doubles computes its result exactly, or as far as one more mantissa can tell,
and then rounds it. Rounding drops bits from the end of the mantissa and remembers the first of
them and whether any other was set; so a number that a mantissa `Holds` is rounded to one of the
two integers next to it. A result is thus `Near` the exact number: no double lies strictly between
the two. What is needed of sums, differences and quotients of numbers that are not negative
follows from that.
-/

namespace TokenBridge.Binary64

open Float.Model Float.Model.UnpackedFloat

/-! ## Dropping bits -/

/-- What the mantissa, the bit after it and the bits after that one say about a number. -/
def Holds (x : ℝ) (em : ExtendedMantissa) : Prop :=
  if em.roundBit || em.stickyBit then em.mantissa < x ∧ x < em.mantissa + 1 else x = em.mantissa

section
variable {x : ℝ} {em : ExtendedMantissa}

theorem Holds.bounds (h : Holds x em) : em.mantissa ≤ x ∧ x ≤ em.mantissa + 1 := by
  unfold Holds at h
  split at h
  · exact ⟨h.1.le, h.2.le⟩
  · subst h
    exact ⟨le_rfl, by linarith⟩

theorem Holds.shiftRightOne (h : Holds x em) : Holds (x / 2) em.shiftRightOne := by
  obtain ⟨m, round, sticky⟩ := em
  have hmod : m % 2 = 0 ∨ m % 2 = 1 := by omega
  have hdiv : ((m % 2 : ℕ) : ℝ) + 2 * ((m / 2 : ℕ) : ℝ) = m := by
    exact_mod_cast Nat.mod_add_div m 2
  rcases hmod with hmod | hmod <;> rw [hmod] at hdiv <;> push_cast at hdiv <;>
    cases round <;> cases sticky <;> simp [Holds, ExtendedMantissa.shiftRightOne, hmod] at h ⊢ <;>
    first | linarith | (constructor <;> linarith)

theorem Holds.shiftRight (h : Holds x em) (k : ℕ) : Holds (x / 2 ^ k) (em >>> k) := by
  induction k with
  | zero =>
    show Holds (x / 2 ^ 0) em
    simpa using h
  | succ k ih =>
    rw [pow_succ, ← div_div]
    exact ih.shiftRightOne

theorem Holds.rounded (h : Holds x em) :
    x = em.roundedMantissa ∨ (em.mantissa < x ∧ x < em.mantissa + 1 ∧
      em.mantissa ≤ em.roundedMantissa ∧ em.roundedMantissa ≤ em.mantissa + 1) := by
  obtain ⟨m, round, sticky⟩ := em
  cases round <;> cases sticky
  · exact .inl h
  all_goals
    refine .inr ⟨h.1, h.2, ?_⟩
    simp only [ExtendedMantissa.roundedMantissa, ExtendedMantissa.accuracy,
      Accuracy.roundToNearestEven]
    omega

theorem Holds.le_rounded (h : Holds x em) {n : ℕ} (hn : n ≤ x) : n ≤ em.roundedMantissa := by
  rcases h.rounded with rfl | ⟨-, hlt, hle, -⟩
  · exact_mod_cast hn
  · have : n < em.mantissa + 1 := by exact_mod_cast hn.trans_lt hlt
    omega

theorem Holds.rounded_le (h : Holds x em) {n : ℕ} (hn : x ≤ n) : em.roundedMantissa ≤ n := by
  rcases h.rounded with rfl | ⟨hlt, -, -, hle⟩
  · exact_mod_cast hn
  · have : em.mantissa < n := by exact_mod_cast hlt.trans_le hn
    omega

end

/-! ## Rounding -/

/-- No double lies strictly between the two numbers. -/
structure Near (x v : ℝ) : Prop where
  le {j : ℕ} {g : ℤ} (hj : j < 2 ^ 53) (hg : -1074 ≤ g) (h : x ≤ j * 2 ^ g) : v ≤ j * 2 ^ g
  ge {j : ℕ} {g : ℤ} (hj : j < 2 ^ 53) (hg : -1074 ≤ g) (h : j * 2 ^ g ≤ x) : j * 2 ^ g ≤ v

theorem Near.refl (x : ℝ) : Near x x := ⟨fun _ _ h => h, fun _ _ h => h⟩

theorem Near.nonneg {x v : ℝ} (h : Near x v) (hx : 0 ≤ x) : 0 ≤ v := by
  simpa using h.ge (j := 0) (g := 0) (by norm_num) (by norm_num) (by simpa using hx)

theorem Near.le_two_pow {x v : ℝ} (h : Near x v) {g : ℤ} (hg : -1074 ≤ g) (hx : x ≤ 2 ^ g) :
    v ≤ 2 ^ g := by
  simpa using h.le (j := 1) (by norm_num) hg (by simpa using hx)

theorem Near.two_pow_le {x v : ℝ} (h : Near x v) {g : ℤ} (hg : -1074 ≤ g) (hx : 2 ^ g ≤ x) :
    2 ^ g ≤ v := by
  simpa using h.ge (j := 1) (by norm_num) hg (by simpa using hx)

theorem Near.eq_of_double {x v : ℝ} (h : Near x v) {j : ℕ} {g : ℤ} (hj : j < 2 ^ 53)
    (hg : -1074 ≤ g) (hx : x = j * 2 ^ g) : v = x := by
  subst hx
  exact le_antisymm (h.le hj hg le_rfl) (h.ge hj hg le_rfl)

theorem Near.eq_zero {v : ℝ} (h : Near 0 v) : v = 0 :=
  h.eq_of_double (j := 0) (g := 0) (by norm_num) (by norm_num) (by norm_num)

/-- The exponent of the double that `m * 2 ^ e` is rounded to, unless the mantissa overflows. -/
abbrev target (m : ℕ) (e : ℤ) : ℤ := Format.binary64.targetExponent (totalExponent m e)

theorem targetExponent_eq (total : ℤ) :
    Format.binary64.targetExponent total = max (total - 53) (-1074) := by
  simp only [Format.targetExponent, Format.mantissaBits, Format.minExponent]
  norm_num

theorem target_eq (m : ℕ) (e : ℤ) : target m e = max (m.log2 + e - 52) (-1074) := by
  rw [target, targetExponent_eq, totalExponent]
  omega

/-- The number is `m * 2 ^ e`, or between this and the next mantissa. -/
structure Stands (x : ℝ) (m : ℕ) (e : ℤ) (acc : Accuracy) : Prop where
  holds : Holds (x / 2 ^ e) (ExtendedMantissa.ofMantissaAndAccuracy m acc)

section
variable {x : ℝ} {m : ℕ} {e t : ℤ} {acc : Accuracy} {em : ExtendedMantissa}

theorem stands_exact (m : ℕ) (e : ℤ) : Stands (m * 2 ^ e) m e .exact := by
  constructor
  show (m * 2 ^ e / 2 ^ e : ℝ) = m
  exact mul_div_cancel_right₀ _ (by positivity)

theorem Stands.bounds (h : Stands x m e acc) : m * 2 ^ e ≤ x ∧ x ≤ (m + 1) * 2 ^ e := by
  have hmantissa : (ExtendedMantissa.ofMantissaAndAccuracy m acc).mantissa = m := by
    cases acc with
    | exact => rfl
    | inexact o => cases o <;> rfl
  have hbounds := h.holds.bounds
  rw [hmantissa, le_div_iff₀ (by positivity), div_le_iff₀ (by positivity)] at hbounds
  exact hbounds

theorem Stands.le_upper (h : Stands x m e acc) : x ≤ 2 ^ (53 + target m e) := by
  have hm : (m : ℝ) + 1 ≤ 2 ^ (m.log2 + 1) := by exact_mod_cast Nat.lt_log2_self
  have hexp : ((m.log2 + 1 : ℕ) : ℤ) + e ≤ 53 + target m e := by
    rw [target_eq]
    omega
  calc x ≤ (m + 1) * 2 ^ e := h.bounds.2
    _ ≤ 2 ^ (m.log2 + 1) * 2 ^ e := by gcongr
    _ = 2 ^ (((m.log2 + 1 : ℕ) : ℤ) + e) := by rw [zpow_add₀ two_ne_zero, zpow_natCast]
    _ ≤ 2 ^ (53 + target m e) := zpow_le_zpow_right₀ one_le_two hexp

theorem Stands.lower_le (h : Stands x m e acc) (he : e ≤ target m e)
    (ht : target m e ≠ -1074) : 2 ^ (52 + target m e) ≤ x := by
  rw [target_eq] at he ht ⊢
  have hm : m ≠ 0 := by
    rintro rfl
    simp at he ht
    omega
  have hlog : (2 : ℝ) ^ m.log2 ≤ m := by exact_mod_cast Nat.log2_self_le hm
  have hexp : 52 + max ((m.log2 : ℤ) + e - 52) (-1074) = m.log2 + e := by omega
  calc (2 : ℝ) ^ (52 + max ((m.log2 : ℤ) + e - 52) (-1074)) = 2 ^ m.log2 * 2 ^ e := by
        rw [hexp, zpow_add₀ two_ne_zero, zpow_natCast]
    _ ≤ m * 2 ^ e := by gcongr
    _ ≤ x := h.bounds.1

/-- Doubles with a larger exponent are whole multiples of the last place, and those with a smaller
one lie below all normal numbers with this exponent. -/
theorem Holds.near (h : Holds (x / 2 ^ t) em) (hnormal : t ≠ -1074 → 2 ^ (52 + t) ≤ x) :
    Near x (em.roundedMantissa * 2 ^ t) := by
  have hpos : (0 : ℝ) < 2 ^ t := by positivity
  have hscale {j : ℕ} {g : ℤ} (hg : t ≤ g) :
      (j : ℝ) * 2 ^ g = ((j * 2 ^ (g - t).toNat : ℕ) : ℝ) * 2 ^ t := by
    push_cast
    rw [mul_assoc, ← zpow_natCast, ← zpow_add₀ two_ne_zero]
    congr 2
    omega
  have hsmall {j : ℕ} {g : ℤ} (hj : j < 2 ^ 53) (hg : g < t) :
      (j : ℝ) * 2 ^ g < 2 ^ (52 + t) := by
    have hj : (j : ℝ) < 2 ^ 53 := by exact_mod_cast hj
    calc (j : ℝ) * 2 ^ g < 2 ^ 53 * 2 ^ g := by gcongr
      _ = 2 ^ ((53 : ℤ) + g) := by rw [zpow_add₀ two_ne_zero]; norm_cast
      _ ≤ 2 ^ (52 + t) := zpow_le_zpow_right₀ one_le_two (by omega)
  constructor
  · intro j g hj hg hx
    rcases le_or_gt t g with htg | htg
    · rw [hscale htg] at hx ⊢
      have := h.rounded_le ((div_le_iff₀ hpos).2 hx)
      gcongr
    · exact absurd (hx.trans_lt (hsmall hj htg)) (not_lt.2 (hnormal (by omega)))
  · intro j g hj hg hx
    rcases le_or_gt t g with htg | htg
    · rw [hscale htg] at hx ⊢
      have := h.le_rounded ((le_div_iff₀ hpos).2 hx)
      gcongr
    · have hleast : ((2 ^ 52 : ℕ) : ℝ) * 2 ^ t = 2 ^ (52 + t) := by
        rw [zpow_add₀ two_ne_zero]
        norm_cast
      have hfull : 2 ^ 52 ≤ em.roundedMantissa := by
        refine h.le_rounded ?_
        rw [le_div_iff₀ hpos, hleast]
        exact hnormal (by omega)
      calc (j : ℝ) * 2 ^ g ≤ ((2 ^ 52 : ℕ) : ℝ) * 2 ^ t := (hsmall hj htg).le.trans_eq hleast.symm
        _ ≤ em.roundedMantissa * 2 ^ t := by gcongr

theorem shift_of_target_le (h : target m e ≤ e) :
    shiftToTargetExponent Format.binary64 m e .exact = (⟨m, false, false⟩, e) := by
  have hzero : (target m e - e).toNat = 0 := by omega
  show ((⟨m, false, false⟩ : ExtendedMantissa) >>> (target m e - e).toNat,
    e + ((target m e - e).toNat : ℤ)) = _
  rw [hzero, Nat.cast_zero, add_zero]
  rfl

theorem shift_overflow (h : -1074 ≤ e) :
    shiftToTargetExponent Format.binary64 (2 ^ 53) e .exact = (⟨2 ^ 52, false, false⟩, e + 1) := by
  have hone : (target (2 ^ 53) e - e).toNat = 1 := by
    rw [target_eq, Nat.log2_two_pow]
    omega
  show ((⟨2 ^ 53, false, false⟩ : ExtendedMantissa) >>> (target (2 ^ 53) e - e).toNat,
    e + ((target (2 ^ 53) e - e).toNat : ℤ)) = _
  rw [hone]
  rfl

/-- A mantissa that rounding makes one bit too long is a power of two. -/
theorem roundWithAccuracy_eq
    (hem : shiftToTargetExponent Format.binary64 m e acc = (em, t)) (ht : -1074 ≤ t)
    (hle : em.roundedMantissa ≤ 2 ^ 53) : roundWithAccuracy Format.binary64 .positive m e acc =
      if h : em.roundedMantissa = 0 then .zero .positive
      else if em.roundedMantissa < 2 ^ 53 then
        .finite .positive em.roundedMantissa t (Nat.pos_of_ne_zero h)
      else .finite .positive (2 ^ 52) (t + 1) (Nat.two_pow_pos 52) := by
  unfold roundWithAccuracy
  rw [hem]
  dsimp only
  by_cases hlt : em.roundedMantissa < 2 ^ 53
  · have htarget : target em.roundedMantissa t ≤ t := by
      rw [target_eq]
      rcases Nat.eq_zero_or_pos em.roundedMantissa with hzero | hpos
      · rw [hzero, Nat.log2_zero]
        omega
      · have := (Nat.log2_lt hpos.ne').2 hlt
        omega
    simp only [shift_of_target_le htarget, if_pos hlt]
  · have hmax : em.roundedMantissa = 2 ^ 53 := by omega
    simp only [hmax, shift_overflow ht]
    rfl

theorem real?_roundWithAccuracy
    (hem : shiftToTargetExponent Format.binary64 m e acc = (em, t)) (ht : -1074 ≤ t)
    (hle : em.roundedMantissa ≤ 2 ^ 53) (hnormal : 2 ^ 52 ≤ em.roundedMantissa ∨ t = -1074)
    (hmax : (em.roundedMantissa : ℝ) * 2 ^ t ≤ 2 ^ (1023 : ℤ)) :
    real? (Float.Model.pack (roundWithAccuracy Format.binary64 .positive m e acc)).unpack =
      some ((em.roundedMantissa * 2 ^ t : ℝ) : EReal) := by
  rw [roundWithAccuracy_eq hem ht hle]
  split
  · next hzero =>
    rw [hzero, Nat.cast_zero, zero_mul]
    exact real?_pack_zero _
  · split
    · next hlt => exact real?_pack _ ⟨hlt, ht, hnormal⟩ hmax
    · next hge =>
      have hcarry : (em.roundedMantissa : ℝ) * 2 ^ t = ((2 ^ 52 : ℕ) : ℝ) * 2 ^ (t + 1) := by
        have hover : em.roundedMantissa = 2 ^ 53 := by omega
        rw [hover, zpow_add_one₀ two_ne_zero]
        push_cast
        ring
      rw [hcarry] at hmax ⊢
      exact real?_pack _ ⟨by norm_num, by omega, .inl le_rfl⟩ hmax

/-- What rounding makes of a number is near it. -/
def Rounds (x : ℝ) (u : UnpackedFloat) : Prop :=
  ∃ v : ℝ, real? (Float.Model.pack u).unpack = some (v : EReal) ∧ Near x v

theorem Stands.rounds (h : Stands x m e acc) (he : e ≤ target m e) (hmax : x ≤ 2 ^ (1023 : ℤ)) :
    Rounds x (roundWithAccuracy Format.binary64 .positive m e acc) := by
  obtain ⟨k, hk⟩ : ∃ k : ℕ, target m e = e + k := ⟨(target m e - e).toNat, by omega⟩
  generalize hem : ExtendedMantissa.ofMantissaAndAccuracy m acc >>> k = em
  have hleast : -1074 ≤ target m e := by
    rw [target_eq]
    omega
  have hshift : shiftToTargetExponent Format.binary64 m e acc = (em, target m e) := by
    have htimes : (target m e - e).toNat = k := by omega
    show (ExtendedMantissa.ofMantissaAndAccuracy m acc >>> (target m e - e).toNat,
      e + ((target m e - e).toNat : ℤ)) = _
    rw [htimes, hem, hk]
  have hholds : Holds (x / 2 ^ target m e) em := by
    rw [hk, zpow_add₀ two_ne_zero, zpow_natCast, ← div_div, ← hem]
    exact h.holds.shiftRight k
  have hlower := h.lower_le he
  have hnear := hholds.near hlower
  have hupper : em.roundedMantissa ≤ 2 ^ 53 := by
    refine hholds.rounded_le ?_
    rw [div_le_iff₀ (by positivity)]
    refine h.le_upper.trans_eq ?_
    rw [zpow_add₀ two_ne_zero]
    norm_cast
  have hnormal : 2 ^ 52 ≤ em.roundedMantissa ∨ target m e = -1074 := by
    refine or_iff_not_imp_right.2 fun hne => hholds.le_rounded ?_
    rw [le_div_iff₀ (by positivity)]
    refine le_trans (le_of_eq ?_) (hlower hne)
    rw [zpow_add₀ two_ne_zero]
    norm_cast
  exact ⟨_, real?_roundWithAccuracy hshift hleast hupper hnormal
    (hnear.le_two_pow (by norm_num) hmax), hnear⟩

end

/-! ## Integers times powers of two -/

theorem decreaseExponent_value {m : ℕ} {e t : ℤ} :
    ((decreaseExponent m e t).1 : ℝ) * 2 ^ (decreaseExponent m e t).2 = m * 2 ^ e := by
  simp only [decreaseExponent, Nat.shiftLeft_eq]
  push_cast
  rw [mul_assoc, ← zpow_natCast, ← zpow_add₀ two_ne_zero]
  congr 2
  omega

theorem decreaseExponent_to {m : ℕ} {e t : ℤ} (ht : t ≤ e) :
    ((decreaseExponent m e t).1 : ℝ) * 2 ^ t = m * 2 ^ e := by
  have hexp : (decreaseExponent m e t).2 = t := by
    simp only [decreaseExponent]
    omega
  have hvalue := @decreaseExponent_value m e t
  rwa [hexp] at hvalue

theorem log2_shiftLeft {m : ℕ} (hm : m ≠ 0) (k : ℕ) : (m <<< k).log2 = m.log2 + k := by
  have hself := Nat.log2_self_le hm
  have hlt := Nat.lt_log2_self (n := m)
  rw [pow_succ] at hlt
  rw [Nat.shiftLeft_eq, Nat.log2_eq_iff (by positivity), pow_add, pow_succ, pow_add]
  constructor
  · gcongr
  · rw [mul_right_comm]
    gcongr

theorem rounds_round {m : ℕ} {e : ℤ} (hm : 0 < m) (hmax : (m : ℝ) * 2 ^ e ≤ 2 ^ (1023 : ℤ)) :
    Rounds (m * 2 ^ e) (round Format.binary64 .positive m e) := by
  have hvalue := @decreaseExponent_value m e (target m e)
  have htarget : (decreaseExponent m e (target m e)).2 ≤
      target (decreaseExponent m e (target m e)).1 (decreaseExponent m e (target m e)).2 := by
    simp only [decreaseExponent]
    rw [target_eq (m <<< _), log2_shiftLeft hm.ne', target_eq]
    omega
  rw [← hvalue] at hmax ⊢
  exact (stands_exact _ _).rounds htarget hmax

theorem rounds_normalize {i : ℤ} {n : ℕ} {e : ℤ} (hi : i = n)
    (hmax : (n : ℝ) * 2 ^ e ≤ 2 ^ (1023 : ℤ)) :
    Rounds (n * 2 ^ e) (UnpackedFloat.normalize Format.binary64 i e .positive) := by
  subst hi
  rcases Nat.eq_zero_or_pos n with rfl | hpos
  · exact ⟨0, real?_pack_zero _, by simpa using Near.refl 0⟩
  · have hround := rounds_round hpos hmax
    unfold UnpackedFloat.normalize
    rwa [Int.compare_eq_gt.2 (by exact_mod_cast hpos)]

/-! ## Arithmetic -/

theorem two_pow_le_most {n : ℕ} (h : n ≤ 1023) : (2 : ℝ) ^ n ≤ 2 ^ (1023 : ℤ) := by
  rw [← zpow_natCast]
  exact zpow_le_zpow_right₀ one_le_two (by omega)

/-- The double denotes a number near this one. -/
def DenotesNear (x : Float) (a : ℝ) : Prop := ∃ v : ℝ, Denotes x v ∧ Near a v

theorem Rounds.denotesNear {x : Float} {a : ℝ} {u : UnpackedFloat} (h : Rounds a u)
    (hx : x.toModel = Float.Model.pack u) : DenotesNear x a := by
  obtain ⟨v, hv, hnear⟩ := h
  exact ⟨v, by rwa [Denotes, hx], hnear⟩

theorem denotesNear_toFloat (n : UInt64) : DenotesNear n.toFloat n.toNat := by
  have hlt : (n.toNat : ℝ) ≤ 2 ^ 64 := by exact_mod_cast n.toNat_lt.le
  have hrounds := rounds_normalize (i := n.toNat) (e := 0) rfl
    (by simpa using hlt.trans (two_pow_le_most (by norm_num)))
  rw [zpow_zero, mul_one] at hrounds
  exact hrounds.denotesNear rfl

section
variable {x y : Float} {a b : ℝ}

theorem Denotes.denotesNear (h : Denotes x a) {z : Float}
    (hz : z.toModel = Float.Model.pack x.toModel.unpack) : DenotesNear z a :=
  ⟨a, by rwa [Denotes, hz, pack_unpack_model], .refl a⟩

theorem denotesNear_zero {s : Sign} (hx : x.toModel = Float.Model.pack (.zero s)) :
    DenotesNear x 0 := Rounds.denotesNear ⟨0, real?_pack_zero s, .refl 0⟩ hx

theorem Denotes.add (hx : Denotes x a) (hy : Denotes y b) (ha : 0 ≤ a) (hb : 0 ≤ b)
    (hmax : a + b ≤ 2 ^ (1023 : ℤ)) : DenotesNear (x + y) (a + b) := by
  have hadd : (x + y).toModel = Float.Model.pack
    (UnpackedFloat.add Format.binary64 x.toModel.unpack y.toModel.unpack) := rfl
  rcases hx.cases_of_nonneg ha with ⟨rfl, s, hu⟩ | ⟨m, e, hm, hu, rfl⟩ <;>
    rcases hy.cases_of_nonneg hb with ⟨rfl, s', hw⟩ | ⟨n, f, hn, hw, rfl⟩
  · rw [hu, hw] at hadd
    rw [add_zero]
    cases s <;> cases s' <;> exact denotesNear_zero hadd
  · rw [zero_add]
    refine hy.denotesNear (hadd.trans ?_)
    rw [hu, hw]
    rfl
  · rw [add_zero]
    refine hx.denotesNear (hadd.trans ?_)
    rw [hu, hw]
    rfl
  · have hsum : ((decreaseExponent m e (min e f)).1 + (decreaseExponent n f (min e f)).1 : ℕ)
        * 2 ^ min e f = (m * 2 ^ e + n * 2 ^ f : ℝ) := by
      rw [Nat.cast_add, add_mul, decreaseExponent_to (min_le_left e f),
        decreaseExponent_to (min_le_right e f)]
    rw [← hsum] at hmax ⊢
    refine (rounds_normalize (Nat.cast_add ..) hmax).denotesNear (hadd.trans ?_)
    rw [hu, hw]
    rfl

theorem Denotes.sub (hx : Denotes x a) (hy : Denotes y b) (hb : 0 ≤ b) (hab : b ≤ a)
    (hmax : a ≤ 2 ^ (1023 : ℤ)) : DenotesNear (x - y) (a - b) := by
  have hsub : (x - y).toModel = Float.Model.pack
    (UnpackedFloat.sub Format.binary64 x.toModel.unpack y.toModel.unpack) := rfl
  have hmax : a - b ≤ 2 ^ (1023 : ℤ) := by linarith
  rcases hx.cases_of_nonneg (hb.trans hab) with ⟨rfl, s, hu⟩ | ⟨m, e, hm, hu, rfl⟩ <;>
    rcases hy.cases_of_nonneg hb with ⟨rfl, s', hw⟩ | ⟨n, f, hn, hw, rfl⟩
  · rw [hu, hw] at hsub
    rw [sub_zero]
    cases s <;> cases s' <;> exact denotesNear_zero hsub
  · have : (0 : ℝ) < n * 2 ^ f := by positivity
    linarith
  · rw [sub_zero]
    refine hx.denotesNear (hsub.trans ?_)
    rw [hu, hw]
    rfl
  · have hm' := decreaseExponent_to (m := m) (min_le_left e f)
    have hn' := decreaseExponent_to (m := n) (min_le_right e f)
    have hle : (decreaseExponent n f (min e f)).1 ≤ (decreaseExponent m e (min e f)).1 := by
      rw [← hm', ← hn'] at hab
      have := le_of_mul_le_mul_right hab (by positivity)
      exact_mod_cast this
    have hdiff : ((decreaseExponent m e (min e f)).1 - (decreaseExponent n f (min e f)).1 : ℕ)
        * 2 ^ min e f = (m * 2 ^ e - n * 2 ^ f : ℝ) := by
      rw [Nat.cast_sub hle, sub_mul, hm', hn']
    rw [← hdiff] at hmax ⊢
    refine (rounds_normalize (Nat.cast_sub hle).symm hmax).denotesNear (hsub.trans ?_)
    rw [hu, hw]
    rfl

theorem stands_quotient (j : ℕ) {n : ℕ} (hn : 0 < n) (t : ℤ) :
    Stands (j / n * 2 ^ t) (j / n) t (accuracyOfFraction (j % n) n) := by
  have hn' : (0 : ℝ) < n := by exact_mod_cast hn
  have hdiv : ((j / n : ℕ) : ℝ) + (j % n : ℕ) / n = j / n := by
    rw [← mul_right_inj' hn'.ne', mul_add, mul_div_cancel₀ _ hn'.ne', mul_div_cancel₀ _ hn'.ne']
    exact_mod_cast Nat.div_add_mod j n
  have hlt : ((j % n : ℕ) : ℝ) / n < 1 := by
    rw [div_lt_one hn']
    exact_mod_cast Nat.mod_lt j hn
  constructor
  unfold accuracyOfFraction
  rw [mul_div_cancel_right₀ _ (by positivity)]
  split
  · next hzero =>
    rw [hzero] at hdiv
    show (j / n : ℝ) = (j / n : ℕ)
    simpa using hdiv.symm
  · next hne =>
    have hpos : (0 : ℝ) < (j % n : ℕ) / n := by
      have : (0 : ℝ) < (j % n : ℕ) := by exact_mod_cast Nat.pos_of_ne_zero hne
      positivity
    have hopen : ((j / n : ℕ) : ℝ) < j / n ∧ (j / n : ℝ) < (j / n : ℕ) + 1 :=
      ⟨by linarith, by linarith⟩
    cases compare (2 * (j % n)) n <;> exact hopen

/-- The quotient of two mantissas fills a mantissa. -/
theorem le_target_quotient {m n k : ℕ} {e f t : ℤ} (hm : 0 < m) (hn : 0 < n)
    (ht : t = min (e - f)
      (Format.binary64.targetExponent (totalExponent m e - totalExponent n f)))
    (hk : (k : ℤ) = e - f - t) : t ≤ target (m <<< k / n) t := by
  rw [targetExponent_eq, totalExponent, totalExponent] at ht
  rw [target_eq]
  rcases le_or_gt t (-1074) with hle | hgt
  · omega
  · have hlog : n.log2 + 53 ≤ m.log2 + k := by omega
    have hfull : 2 ^ 52 ≤ m <<< k / n := by
      rw [Nat.le_div_iff_mul_le hn, Nat.shiftLeft_eq]
      calc 2 ^ 52 * n ≤ 2 ^ 52 * 2 ^ (n.log2 + 1) := by
            gcongr
            exact Nat.lt_log2_self.le
        _ = 2 ^ (n.log2 + 53) := by rw [← pow_add]; congr 1; omega
        _ ≤ 2 ^ (m.log2 + k) := Nat.pow_le_pow_right (by norm_num) hlog
        _ ≤ m * 2 ^ k := by
            rw [pow_add]
            gcongr
            exact Nat.log2_self_le hm.ne'
    have := (Nat.le_log2 (by positivity)).2 hfull
    omega

theorem Denotes.div (hx : Denotes x a) (hy : Denotes y b) (ha : 0 ≤ a) (hb : 0 < b)
    (hmax : a / b ≤ 2 ^ (1023 : ℤ)) : DenotesNear (x / y) (a / b) := by
  have hdiv : (x / y).toModel = Float.Model.pack
    (UnpackedFloat.div Format.binary64 x.toModel.unpack y.toModel.unpack) := rfl
  rcases hy.cases_of_nonneg hb.le with ⟨rfl, -⟩ | ⟨n, f, hn, hw, rfl⟩
  · exact absurd hb (lt_irrefl 0)
  rcases hx.cases_of_nonneg ha with ⟨rfl, s, hu⟩ | ⟨m, e, hm, hu, rfl⟩
  · rw [hu, hw] at hdiv
    rw [zero_div]
    exact denotesNear_zero hdiv
  · generalize ht : min (e - f)
      (Format.binary64.targetExponent (totalExponent m e - totalExponent n f)) = t
    generalize hs : (e - f - t).toNat = k
    have hk : (k : ℤ) = e - f - t := by omega
    have hquot : (m * 2 ^ e / (n * 2 ^ f) : ℝ) = (m <<< k : ℕ) / n * 2 ^ t := by
      have hn' : (0 : ℝ) < n := by exact_mod_cast hn
      rw [Nat.shiftLeft_eq]
      push_cast
      field_simp
      rw [← zpow_natCast, ← zpow_add₀ two_ne_zero, ← zpow_add₀ two_ne_zero]
      congr 1
      omega
    rw [hquot] at hmax ⊢
    refine ((stands_quotient _ hn t).rounds (le_target_quotient hm hn ht.symm hk)
      hmax).denotesNear (hdiv.trans ?_)
    rw [hu, hw, ← hs, ← ht]
    rfl

end

end TokenBridge.Binary64
