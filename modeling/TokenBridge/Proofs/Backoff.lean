import TokenBridge.Dialogue.Patience
import TokenBridge.Proofs.Outcome
import TokenBridge.Proofs.Seconds
import TokenBridge.Settings

/-!
# Waits that grow

How long does a policy wait after an attempt that failed? The initial seconds are multiplied by a
`power` of the multiplier and `Capped`, and the `Backoff` is the duration nearest to that. A pause
`Sleeps` for about as long, within the spread. Some waits have no length: the spread can be
missing, and seconds that are capped at `2 ^ 64` can be too many for a duration. A policy without
these faults is `Steady`, and has a length for every wait. Policies that were read from an
environment are (`Settings.retry_steady`).
-/

namespace TokenBridge

open Binary64 Duration

theorem denotes_zero : Denotes 0 (0 : ℝ) := rfl

theorem denotes_one : Denotes 1 (1 : ℝ) :=
  denotes_of_unpack (m := 4503599627370496) (e := -52) (by norm_num) rfl (by norm_num)

theorem denotes_two_pow : Denotes 18446744073709551616 ((2 : ℝ) ^ 64 : ℝ) :=
  denotes_of_unpack (m := 4503599627370496) (e := 12) (by norm_num) rfl (by norm_num)

/-! ## Caps -/

/-- A number held between zero and a cap; a missing one counts as too large. -/
inductive Capped (cap x : Float) : Float → Prop
  | negative (h : x < 0) : Capped cap x 0
  | within (hlow : 0 ≤ x) (hhigh : x ≤ cap) : Capped cap x x
  | above (h : cap < x) : Capped cap x cap
  | missing (h : x.isNaN = true) : Capped cap x cap

section
variable {cap x y : Float} {c : ℝ}

theorem larger_zero_of_nonneg {v : ℝ} (h : Denotes x v) (hv : 0 ≤ v) : larger x 0 = x := by
  have hlt : ¬ x < 0 := by
    rw [h.lt_iff denotes_zero]
    exact_mod_cast not_lt.2 hv
  unfold larger
  rw [h.isNaN, denotes_zero.isNaN, if_neg hlt]
  rfl

theorem exists_capped (h : Denotes cap c) (hc : 0 ≤ c) (x : Float) :
    ∃ y, Capped cap x y ∧ ∃ v : ℝ, Denotes y v ∧ 0 ≤ v ∧ v ≤ c := by
  cases hx : x.isNaN with
  | true => exact ⟨cap, .missing hx, c, h, hc, le_rfl⟩
  | false =>
    obtain ⟨a, ha⟩ := exists_denotes_of_not_isNaN hx
    rcases lt_or_ge a (0 : ℝ) with hneg | hpos
    · exact ⟨0, .negative ((ha.lt_iff denotes_zero).2 hneg), 0, denotes_zero, le_rfl, hc⟩
    rcases lt_or_ge (c : EReal) a with habove | hbelow
    · exact ⟨cap, .above ((h.lt_iff ha).2 habove), c, h, hc, le_rfl⟩
    · refine ⟨x, .within ((denotes_zero.le_iff ha).2 hpos) ((ha.le_iff h).2 hbelow), ?_⟩
      lift a to ℝ using ⟨(hbelow.trans_lt (EReal.coe_lt_top c)).ne,
        ((EReal.bot_lt_coe 0).trans_le hpos).ne'⟩
      exact ⟨a, ha, by exact_mod_cast hpos, by exact_mod_cast hbelow⟩

theorem smaller_of_denotes {a b : EReal} (hx : Denotes x a) (hy : Denotes y b) :
    smaller x y = if y < x then y else x := by
  unfold smaller
  rw [hx.isNaN, hy.isNaN]
  rfl

theorem Capped.larger_smaller (h : Denotes cap c) (hc : 0 ≤ c) (hy : Capped cap x y) :
    larger (smaller x cap) 0 = y := by
  cases hy with
  | negative hneg =>
    obtain ⟨⟨a, ha⟩, -⟩ := exists_denotes_of_lt hneg
    have hbelow : ¬ cap < x := by
      rw [h.lt_iff ha, not_lt]
      have hc' : ((0 : ℝ) : EReal) ≤ c := by exact_mod_cast hc
      exact ((ha.lt_iff denotes_zero).1 hneg).le.trans hc'
    rw [smaller_of_denotes ha h, if_neg hbelow]
    unfold larger
    rw [ha.isNaN, denotes_zero.isNaN, if_pos hneg]
    rfl
  | within hlow hhigh =>
    obtain ⟨-, a, ha⟩ := exists_denotes_of_le hlow
    have hbelow : ¬ cap < x := by
      rw [h.lt_iff ha, not_lt]
      exact (ha.le_iff h).1 hhigh
    have hpos : ¬ x < 0 := by
      rw [ha.lt_iff denotes_zero, not_lt]
      exact (denotes_zero.le_iff ha).1 hlow
    rw [smaller_of_denotes ha h, if_neg hbelow]
    unfold larger
    rw [ha.isNaN, denotes_zero.isNaN, if_neg hpos]
    rfl
  | above habove =>
    obtain ⟨-, a, ha⟩ := exists_denotes_of_lt habove
    rw [smaller_of_denotes ha h, if_pos habove, larger_zero_of_nonneg h hc]
  | missing hx =>
    have hcap : smaller x cap = cap := by
      unfold smaller
      rw [hx]
      rfl
    rw [hcap, larger_zero_of_nonneg h hc]

theorem larger_smaller_eq_iff (h : Denotes cap c) (hc : 0 ≤ c) :
    larger (smaller x cap) 0 = y ↔ Capped cap x y := by
  obtain ⟨y', hy', -⟩ := exists_capped h hc x
  constructor
  · rintro rfl
    rwa [hy'.larger_smaller h hc]
  · exact Capped.larger_smaller h hc

end

theorem capped?_eq_some {most d : Duration} {x : Float} : Duration.capped? most x = some d ↔
    ∃ y, Capped most.toFloat x y ∧ Nearest y d := by
  obtain ⟨c, hcap, hc, -⟩ := exists_denotes_toFloat_pos most
  rw [Duration.capped?, ofFloat?_eq_some]
  constructor
  · intro h
    exact ⟨_, (larger_smaller_eq_iff hcap hc).1 rfl, h⟩
  · rintro ⟨y, hy, hd⟩
    rwa [hy.larger_smaller hcap hc]

/-! ## Powers -/

/-- A number squared again and again. -/
def squared (x : Float) (n : ℕ) : Float := (fun y => y * y)^[n] x

/-- The product of the squarings that the binary digits of the exponent ask for, from the lowest
digit on. -/
def power (x : Float) (n : ℕ) : Float := (n.bitIndices.map (squared x)).foldl (· * ·) 1

theorem squared_zero (x : Float) : squared x 0 = x := rfl

theorem powerTimes_eq (acc x : Float) (n : ℕ) :
    RetryPolicy.powerTimes acc x n = (n.bitIndices.map (squared x)).foldl (· * ·) acc := by
  induction acc, x, n using RetryPolicy.powerTimes.induct with
  | case1 acc x n hhalf =>
    have hn : n = 0 ∨ n = 1 := by omega
    rcases hn with rfl | rfl <;> simp [RetryPolicy.powerTimes, squared_zero]
  | case2 acc x n acc' hhalf ih =>
    have hsquare : (fun i => squared x (i + 1)) = squared (x * x) := rfl
    rw [RetryPolicy.powerTimes]
    simp only [if_neg hhalf]
    refine ih.trans ?_
    rcases Nat.even_or_odd' n with ⟨k, rfl | rfl⟩
    · have hk : 2 * k / 2 = k := by omega
      simp [acc', hk, hsquare, Function.comp_def]
    · have hk : (2 * k + 1) / 2 = k := by omega
      simp [acc', hk, hsquare, Function.comp_def, squared_zero]

/-! ## The spread -/

theorem one_sub_le_one_add {s : Float} {v : ℝ} (h : Denotes s v) (hv : 0 ≤ v) (hle : v ≤ 1) :
    1 - s ≤ 1 + s := by
  have hsmall : (1 : ℝ) ≤ 2 ^ (1023 : ℤ) := by simpa using two_pow_le_most (n := 0) (by norm_num)
  have htwo : 1 + v ≤ 2 ^ 1 := by
    rw [pow_one]
    linarith
  have hsum : 1 + v ≤ 2 ^ (1023 : ℤ) := htwo.trans (two_pow_le_most (by norm_num))
  obtain ⟨a, ha, hanear⟩ := denotes_one.sub h hv hle hsmall
  obtain ⟨b, hb, hbnear⟩ := denotes_one.add h zero_le_one hv hsum
  have hone : a ≤ 2 ^ (0 : ℤ) := hanear.le_two_pow (by norm_num) (by rw [zpow_zero]; linarith)
  have hone' : 2 ^ (0 : ℤ) ≤ b := hbnear.two_pow_le (by norm_num) (by rw [zpow_zero]; linarith)
  exact (ha.le_iff hb).2 (by exact_mod_cast hone.trans hone')

theorem between_of_pos {x s : Float} (h : 0 < x) (hs : Capped 1 x s) :
    between 0 1 x = s ∧ (s == 0) = false ∧ 1 - s ≤ 1 + s := by
  obtain ⟨-, a, ha⟩ := exists_denotes_of_lt h
  have hpos := (denotes_zero.lt_iff ha).1 h
  have hlow : ¬ x < 0 := by
    rw [ha.lt_iff denotes_zero]
    exact hpos.not_gt
  unfold between
  rw [if_neg hlow]
  cases hs with
  | negative hneg => exact absurd hneg hlow
  | within _ hle =>
    have hle' := (ha.le_iff denotes_one).1 hle
    rw [if_neg (by rw [denotes_one.lt_iff ha]; exact hle'.not_gt)]
    refine ⟨rfl, ?_, ?_⟩
    · rw [Bool.eq_false_iff]
      exact fun heq => hpos.ne' ((ha.beq_iff denotes_zero).1 heq)
    · lift a to ℝ using ⟨(hle'.trans_lt (EReal.coe_lt_top 1)).ne,
        ((EReal.bot_lt_coe 0).trans hpos).ne'⟩
      exact one_sub_le_one_add ha (by exact_mod_cast hpos.le) (by exact_mod_cast hle')
  | above habove =>
    rw [if_pos habove]
    refine ⟨rfl, ?_, one_sub_le_one_add denotes_one zero_le_one le_rfl⟩
    rw [Bool.eq_false_iff, Ne, denotes_one.beq_iff denotes_zero]
    norm_num
  | missing hnan => rw [ha.isNaN] at hnan; cases hnan

theorem lt_of_not_le {x : Float} (hnan : x.isNaN = false) (h : ¬ x ≤ 0) : 0 < x := by
  obtain ⟨a, ha⟩ := exists_denotes_of_not_isNaN hnan
  rw [ha.le_iff denotes_zero, not_le] at h
  exact (denotes_zero.lt_iff ha).2 h

theorem between_of_isNaN {x : Float} (h : x.isNaN = true) : between 0 1 x = x := by
  have hmissing {a : EReal} : ¬ Denotes x a := fun ha => by
    rw [ha.isNaN] at h
    cases h
  have hlow : ¬ x < 0 := fun hlt => (exists_denotes_of_lt hlt).1.elim fun _ => hmissing
  have hhigh : ¬ 1 < x := fun hlt => (exists_denotes_of_lt hlt).2.elim fun _ => hmissing
  rw [between, if_neg hlow, if_neg hhigh]

/-- Only a spread of zero or less leaves none. -/
theorem between_eq_zero_iff {x : Float} : (between 0 1 x == 0) = true ↔ x ≤ 0 := by
  constructor
  · intro h
    cases hnan : x.isNaN with
    | true =>
      rw [between_of_isNaN hnan] at h
      obtain ⟨⟨a, ha⟩, -⟩ := exists_denotes_of_beq h
      rw [ha.isNaN] at hnan
      cases hnan
    | false =>
      by_contra hle
      obtain ⟨s, hs, -⟩ := exists_capped denotes_one zero_le_one x
      obtain ⟨heq, hne, -⟩ := between_of_pos (lt_of_not_le hnan hle) hs
      rw [heq, hne] at h
      cases h
  · intro h
    obtain ⟨⟨a, ha⟩, -⟩ := exists_denotes_of_le h
    have hle := (ha.le_iff denotes_zero).1 h
    unfold between
    split
    · rfl
    · next hneg =>
      have hpos := not_lt.1 (mt (ha.lt_iff denotes_zero).2 hneg)
      have hbelow : ¬ 1 < x := by
        rw [denotes_one.lt_iff ha, not_lt]
        exact hle.trans (by exact_mod_cast zero_le_one (α := ℝ))
      rw [if_neg hbelow]
      exact (ha.beq_iff denotes_zero).2 (le_antisymm hle hpos)

theorem not_one_sub_le {s : Float} (h : s.isNaN = true) (x : Float) : ¬ 1 - s ≤ x := by
  have hone : (1 : Float).toModel.unpack =
    .finite .positive 4503599627370496 (-52) (by norm_num) := rfl
  have hmissing : (1 - s).toModel.unpack = .notANumber := by
    show (Float.Model.pack (Float.Model.UnpackedFloat.sub _ (1 : Float).toModel.unpack
      s.toModel.unpack)).unpack = _
    rw [unpack_of_isNaN h, hone]
    rfl
  intro hle
  obtain ⟨⟨a, ha⟩, -⟩ := exists_denotes_of_le hle
  rw [Denotes, hmissing] at ha
  cases ha

/-! ## Waits -/

namespace RetryPolicy

/-- The wait after an attempt before chance has its say. -/
def Backoff (p : RetryPolicy) (attempt : ℕ) (d : Duration) : Prop :=
  ∃ y, Capped p.most.toFloat
    (p.initial.toFloat * power p.multiplier (min attempt (2 ^ 31 - 1))) y ∧ Nearest y d

/-- The wait after an attempt, where `draw` gives a number from a range. -/
inductive Sleeps (p : RetryPolicy) (draw : Float → Float → Float) (attempt : ℕ) : Duration → Prop
  | plain {base d : Duration} (hbase : p.Backoff attempt base)
      (h : p.jitter ≤ 0 ∨ base.nanos = 0) (hd : Nearest base.toFloat d) :
      Sleeps p draw attempt d
  | spread {base d : Duration} {s y : Float} (hbase : p.Backoff attempt base)
      (hpos : base.nanos ≠ 0) (hjitter : 0 < p.jitter) (hs : Capped 1 p.jitter s)
      (hy : Capped p.most.toFloat (base.toFloat * draw (1 - s) (1 + s)) y) (hd : Nearest y d) :
      Sleeps p draw attempt d

variable {p : RetryPolicy} {draw : Float → Float → Float} {attempt : ℕ} {d : Duration}

theorem backoff?_eq_some : p.backoff? attempt = some d ↔ p.Backoff attempt d := by
  unfold backoff? grown Backoff power
  rw [powerTimes_eq, capped?_eq_some]
  rfl

theorem duration?_eq_some :
    (p.pause attempt).duration? draw = some d ↔ p.Sleeps draw attempt d := by
  have hbind : (p.pause attempt).duration? draw = (p.backoff? attempt).bind fun base =>
      if between 0 1 p.jitter == 0 || base.toFloat == 0 then ofFloat? base.toFloat
      else if 1 - between 0 1 p.jitter ≤ 1 + between 0 1 p.jitter then
        capped? p.most (base.toFloat * draw (1 - between 0 1 p.jitter) (1 + between 0 1 p.jitter))
      else none := rfl
  have hzero (base : Duration) : (base.toFloat == 0) = true ↔ base.nanos = 0 := by
    obtain ⟨v, hv, -, hiff⟩ := exists_denotes_toFloat_pos base
    rw [hv.beq_iff denotes_zero, ← hiff]
    exact_mod_cast Iff.rfl
  rw [hbind, Option.bind_eq_some_iff]
  simp only [backoff?_eq_some, Bool.or_eq_true, hzero]
  constructor
  · rintro ⟨base, hbase, h⟩
    split at h
    · next hplain =>
      refine .plain hbase (hplain.imp_left fun hzero => ?_) (ofFloat?_eq_some.1 h)
      exact between_eq_zero_iff.1 hzero
    · next hspread =>
      obtain ⟨hjitter, hpos⟩ := not_or.1 hspread
      rw [between_eq_zero_iff] at hjitter
      split at h
      · next hrange =>
        have hnan : p.jitter.isNaN = false := by
          by_contra hnan
          rw [between_of_isNaN (eq_true_of_ne_false hnan)] at hrange
          exact not_one_sub_le (eq_true_of_ne_false hnan) _ hrange
        obtain ⟨s, hs, -⟩ := exists_capped denotes_one zero_le_one p.jitter
        have hpositive := lt_of_not_le hnan hjitter
        rw [(between_of_pos hpositive hs).1] at h
        obtain ⟨y, hy, hd⟩ := capped?_eq_some.1 h
        exact .spread hbase hpos hpositive hs hy hd
      · cases h
  · intro h
    cases h with
    | @plain base d hbase h hd =>
      refine ⟨base, hbase, ?_⟩
      rw [if_pos (h.imp_left between_eq_zero_iff.2)]
      exact ofFloat?_eq_some.2 hd
    | @spread base d s y hbase hpos hjitter hs hy hd =>
      obtain ⟨heq, hne, hle⟩ := between_of_pos hjitter hs
      refine ⟨base, hbase, ?_⟩
      rw [heq, hne, if_neg (by simpa using hpos), if_pos hle]
      exact capped?_eq_some.2 ⟨y, hy, hd⟩

/-- Every wait of the policy has a length: the spread is a number, and the longest wait is written
as a double that can be read. -/
structure Steady (p : RetryPolicy) : Prop where
  spread : p.jitter.isNaN = false
  readable : p.most.toFloat < 18446744073709551616

/-- Seconds that are capped can be read if the cap can. -/
theorem Steady.exists_nearest (h : p.Steady) (x : Float) :
    ∃ y d, Capped p.most.toFloat x y ∧ Nearest y d := by
  obtain ⟨c, hc, hc0, -⟩ := exists_denotes_toFloat_pos p.most
  have hlt : c < 2 ^ 64 := by
    have := (hc.lt_iff denotes_two_pow).1 h.readable
    exact_mod_cast this
  obtain ⟨y, hy, v, hv, hv0, hle⟩ := exists_capped hc hc0 x
  obtain ⟨d, hd⟩ := exists_nearest_iff.2 ⟨v, hv, hv0, hle.trans_lt hlt⟩
  exact ⟨y, d, hy, hd⟩

theorem Steady.exists_sleeps (h : p.Steady) (draw : Float → Float → Float) (attempt : ℕ) :
    ∃ d, p.Sleeps draw attempt d := by
  obtain ⟨y, base, hy, hbase⟩ :=
    h.exists_nearest (p.initial.toFloat * power p.multiplier (min attempt (2 ^ 31 - 1)))
  by_cases hplain : p.jitter ≤ 0 ∨ base.nanos = 0
  · obtain ⟨d, hd⟩ := hbase.again
    exact ⟨d, .plain ⟨y, hy, hbase⟩ hplain hd⟩
  · obtain ⟨hjitter, hpos⟩ := not_or.1 hplain
    obtain ⟨s, hs, -⟩ := exists_capped denotes_one zero_le_one p.jitter
    obtain ⟨z, d, hz, hd⟩ := h.exists_nearest (base.toFloat * draw (1 - s) (1 + s))
    exact ⟨d, .spread ⟨y, hy, hbase⟩ hpos (lt_of_not_le h.spread hjitter) hs hz hd⟩

end RetryPolicy

/-! ## Settings -/

theorem toFloat_ofMillis_lt (n : UInt64) :
    (Duration.ofMillis n).toFloat < 18446744073709551616 := by
  have hseconds : (Duration.ofMillis n).nanos / 1000000000 ≤ 2 ^ 55 := by
    have := n.toNat_lt
    show n.toNat * 1000000 / 1000000000 ≤ _
    omega
  obtain ⟨v, hv, -, hle⟩ := exists_denotes_toFloat_le (by norm_num) hseconds
  refine (hv.lt_iff denotes_two_pow).2 ?_
  have : v < 2 ^ 64 := hle.trans_lt (by norm_num)
  exact_mod_cast this

namespace Settings

variable {env : Environment} {s : Settings}

theorem exists_most_of_readRetry {p : RetryPolicy} (h : readRetry env = .ok p) :
    ∃ n, p.most = .ofMillis n := by
  simp only [readRetry, millis, bind_eq_ok, map_eq_ok, pure_eq_ok] at h
  obtain ⟨-, -, -, -, most, ⟨n, -, rfl⟩, -, -, rfl⟩ := h
  exact ⟨n, rfl⟩

theorem exists_most_of_read (h : read env = .ok s) : ∃ n, s.retry.most = .ofMillis n := by
  simp only [read, bind_eq_ok, pure_eq_ok] at h
  obtain ⟨-, -, -, -, -, -, -, -, -, -, -, -, -, -, -, -, -, -, p, hp, -, -, -, -, rfl⟩ := h
  exact exists_most_of_readRetry hp

theorem isNaN_jitter_of_validate {u : Unit} (h : s.validate = .ok u) :
    s.retry.jitter.isNaN = false := by
  simp only [validate, bind_eq_ok, guard_eq_ok, last_guard_eq_ok] at h
  have hrange : (decide (0 ≤ s.retry.jitter) && decide (s.retry.jitter ≤ 1)) = true := by
    obtain ⟨-, -, -, -, -, -, -, h, -⟩ := h
    simpa using h
  obtain ⟨-, a, ha⟩ := exists_denotes_of_le (of_decide_eq_true (Bool.and_eq_true_iff.1 hrange).1)
  exact ha.isNaN

/-- Settings that were read from an environment ask for waits that have a length. -/
theorem retry_steady (h : ofEnvironment env = .ok s) : s.retry.Steady := by
  simp only [ofEnvironment, bind_eq_ok, pure_eq_ok] at h
  obtain ⟨s', hread, u, hvalidate, rfl⟩ := h
  obtain ⟨n, hmost⟩ := exists_most_of_read hread
  refine ⟨isNaN_jitter_of_validate hvalidate, ?_⟩
  rw [hmost]
  exact toFloat_ofMillis_lt n

end Settings

end TokenBridge
