import TokenBridge.Proofs.Waiting

/-!
# Exact arithmetic of quotas

Quotas are computed with words: products at 128 bits and all else at 64, partly with operations that
stop at the end of the range. None of that shows. `Quota.ideal` reads a record as an `Ideal` quota,
one over the integers, and an operation on the record is the formula on the ideal quota
(`ComputesIdeal`). On the way no result is too large for its width, none falls below zero and nothing
is divided by zero: in an arithmetic that traps there, the operations give the same results
(`NeverTraps`). Only a release time may lie beyond the end of time.
-/

namespace TokenBridge

/-! ## Arithmetic that traps -/

namespace Word

/-- A word as an integer. -/
def toInt (a : UInt64) : Int := a.toNat

def sub? (a b : UInt64) : Option UInt64 := if b ≤ a then some (a - b) else none

theorem toInt_inj {a b : UInt64} : toInt a = toInt b ↔ a = b := by
  rw [toInt, toInt, Int.ofNat_inj, UInt64.toNat_inj]

theorem le_iff_toInt_le {a b : UInt64} : a ≤ b ↔ toInt a ≤ toInt b := by
  rw [toInt, toInt, Int.ofNat_le, UInt64.le_iff_toNat_le]

theorem sub?_of_le {a b : UInt64} (h : b ≤ a) : sub? a b = some (a - b) := if_pos h

theorem toInt_sub_of_le {a b : UInt64} (h : b ≤ a) : toInt (a - b) = toInt a - toInt b := by
  have hle := UInt64.le_iff_toNat_le.1 h
  rw [toInt, toInt, toInt, UInt64.toNat_sub_of_le _ _ h]
  omega

theorem toInt_subSat (a b : UInt64) : toInt (subSat a b) = max (toInt a - toInt b) 0 := by
  rw [toInt, toInt, toInt, toNat_subSat]
  omega

theorem toInt_nonneg (a : UInt64) : 0 ≤ toInt a := Int.natCast_nonneg _

theorem toInt_max (a b : UInt64) : toInt (max a b) = max (toInt a) (toInt b) := by
  rw [toInt, toInt, toInt, UInt64.toNat_max]
  omega

theorem toInt_min (a b : UInt64) : toInt (min a b) = min (toInt a) (toInt b) := by
  rw [toInt, toInt, toInt, UInt64.toNat_min]
  omega

/-- Below a word, a sum that stops at the end of the range is the sum. -/
theorem toInt_min_addSat (a b most : UInt64) :
    toInt (min (addSat a b) most) = min (toInt a + toInt b) (toInt most) := by
  have hmost : most.toNat < UInt64.size := most.toNat_lt
  rw [toInt_min, toInt, toInt, toInt, toInt, toNat_addSat]
  omega

end Word

namespace Wide

def div? (a b : Wide) : Option Wide := if b = 0 then none else some (a / b)

def divCeil? (a b : Wide) : Option Wide := do
  let quotient ← div? a b
  if a % b = 0 then return quotient else add? quotient 1

theorem add?_of_lt {a b : Wide} (h : a.toNat + b.toNat < size) : add? a b = some (a + b) := if_pos h

theorem mul?_of_lt {a b : Wide} (h : a.toNat * b.toNat < size) : mul? a b = some (a * b) := if_pos h

theorem div?_of_ne_zero (a : Wide) {b : Wide} (h : b ≠ 0) : div? a b = some (a / b) := if_neg h

theorem narrow?_of_lt {a : Wide} (h : a.toNat < UInt64.size) :
    narrow? a = some (UInt64.ofBitVec (a.setWidth 64)) := if_pos h

theorem widen_ne_zero {n : UInt64} (h : n ≠ 0) : Word.widen n ≠ 0 := by
  intro hzero
  have hnat := congrArg BitVec.toNat hzero
  rw [Word.toNat_widen] at hnat
  exact h (UInt64.toNat_inj.1 hnat)

/-- A quotient that is rounded up has room for the one more. -/
theorem divCeil?_eq (a : Wide) {b : Wide} (h : b ≠ 0) : divCeil? a b = some (divCeil a b) := by
  unfold divCeil? divCeil
  rw [div?_of_ne_zero a h, Option.bind_eq_bind, Option.bind_some]
  split
  · rfl
  · rename_i hrem
    have ha := a.isLt
    have hsize : size = 2 ^ 128 := rfl
    have hone : (1 : Wide).toNat = 1 := rfl
    -- a divisor that leaves something over is at least two
    have hb : 2 ≤ b.toNat := by
      rw [← BitVec.toNat_inj, BitVec.toNat_umod] at hrem
      have hzero : b.toNat ≠ 0 := fun hz => h (BitVec.toNat_inj.1 hz)
      have hunit : b.toNat ≠ 1 := fun hu => hrem (by rw [hu, Nat.mod_one]; rfl)
      omega
    have hhalf : a.toNat / b.toNat ≤ a.toNat / 2 := Nat.div_le_div_left hb (by decide)
    refine add?_of_lt ?_
    rw [BitVec.toNat_udiv]
    omega

end Wide

namespace Quota

open Word (toInt)

section
variable (p : Period) (q : Quota) (now amount : UInt64)

/-- `available` in arithmetic that traps; so are the operations below. -/
def available? : Option UInt64 :=
  if p.seconds = 0 then some q.limit
  else do
    let limit := Word.widen q.limit
    let product ← Wide.mul? (Word.widen (Word.subSat now q.asOf)) limit
    let refilled ← Wide.div? product (Word.widen p.seconds)
    let total ← Wide.add? (Word.widen q.remaining) refilled
    Wide.narrow? (if total ≤ limit then total else limit)

/-- What the operation refuses by itself is no trap. -/
def releaseTime? : Option (Except Error UInt64) := do
  let capacity ← q.available? p now
  if amount ≤ capacity then return .ok now
  else if q.limit = 0 then return .error (.rateLimitExceeded amount capacity)
  else
    let missing ← Word.sub? amount capacity
    match Wide.mul? (Word.widen missing) (Word.widen p.seconds) with
    | none => return .error (.overflow "queue release time")
    | some needed =>
      let wait ← Wide.divCeil? needed (Word.widen q.limit)
      match (Wide.narrow? wait).bind (Word.add? now) with
      | some t => return .ok t
      | none => return .error (.overflow "queue release time")

def spend? (onShortage : OnShortage) : Option (Except Error Spending) := do
  let capacity ← q.available? p now
  if amount ≤ capacity then
    let left ← Word.sub? capacity amount
    return .ok (.spent (q.recordAt now left))
  else match onShortage with
    | .refuse => return .error (.rateLimitExceeded amount capacity)
    | .queue =>
      let time ← q.releaseTime? p now amount
      return .queued <$> time

def drain? : Option Quota := do
  let capacity ← q.available? p now
  return q.recordAt now (Word.subSat capacity amount)

def refund? : Option Quota := do
  let capacity ← q.available? p now
  return q.recordAt now (min (Word.addSat capacity amount) q.limit)

def resize? (limit : UInt64) : Option Quota := do
  let capacity ← q.available? p now
  if limit < q.limit then
    let less ← Word.sub? q.limit limit
    return ⟨limit, min (Word.subSat capacity less) limit, max now q.asOf⟩
  else
    let more ← Word.sub? limit q.limit
    return ⟨limit, min (Word.addSat capacity more) limit, max now q.asOf⟩

end

/-- No step of an operation on the quota traps. -/
structure NeverTraps (p : Period) (q : Quota) : Prop where
  available : ∀ now, q.available? p now = some (q.available p now)
  releaseTime : ∀ now amount, q.releaseTime? p now amount = some (q.releaseTime p now amount)
  spend : ∀ now amount onShortage,
    q.spend? p now amount onShortage = some (q.spend p now amount onShortage)
  drain : ∀ now amount, q.drain? p now amount = some (q.drain p now amount)
  refund : ∀ now amount, q.refund? p now amount = some (q.refund p now amount)
  resize : ∀ now limit, q.resize? p now limit = some (q.resize p now limit)

variable {p : Period} {q : Quota} {now amount t : UInt64} {err : Error}

theorem available?_eq (p : Period) (q : Quota) (now : UInt64) :
    q.available? p now = some (q.available p now) := by
  unfold available? available
  by_cases hp : p.seconds = 0
  · rw [if_pos hp, if_pos hp]
  rw [if_neg hp, if_neg hp]
  have hr := q.remaining.toNat_lt
  have he := (Word.subSat now q.asOf).toNat_lt
  have hl := q.limit.toNat_lt
  have hsize : Wide.size = 2 ^ 128 := rfl
  have hword : UInt64.size = 2 ^ 64 := rfl
  have hproduct : (Word.subSat now q.asOf).toNat * q.limit.toNat ≤ (2 ^ 64 - 1) * (2 ^ 64 - 1) :=
    Nat.mul_le_mul (by omega) (by omega)
  have hquotient := Nat.div_le_self ((Word.subSat now q.asOf).toNat * q.limit.toNat) p.seconds.toNat
  have hmul : Wide.mul? (Word.widen (Word.subSat now q.asOf)) (Word.widen q.limit) =
      some (Word.widen (Word.subSat now q.asOf) * Word.widen q.limit) := by
    refine Wide.mul?_of_lt ?_
    rw [Word.toNat_widen, Word.toNat_widen]
    omega
  have hrefilled : (Word.widen (Word.subSat now q.asOf) * Word.widen q.limit /
      Word.widen p.seconds).toNat =
        (Word.subSat now q.asOf).toNat * q.limit.toNat / p.seconds.toNat := by
    rw [BitVec.toNat_udiv, BitVec.toNat_mul, Word.toNat_widen, Word.toNat_widen, Word.toNat_widen,
      Nat.mod_eq_of_lt (by omega)]
  simp only [hmul, Wide.div?_of_ne_zero _ (Wide.widen_ne_zero hp), Option.bind_eq_bind,
    Option.bind_some]
  rw [Wide.add?_of_lt (by rw [hrefilled, Word.toNat_widen]; omega), Option.bind_some]
  refine Wide.narrow?_of_lt ?_
  -- the lesser of the two is at most the limit
  split
  · rename_i hle
    have hle' := BitVec.le_def.1 hle
    rw [Word.toNat_widen q.limit] at hle'
    omega
  · rw [Word.toNat_widen]
    omega

theorem releaseTime?_eq (p : Period) (q : Quota) (now amount : UInt64) :
    q.releaseTime? p now amount = some (q.releaseTime p now amount) := by
  unfold releaseTime? releaseTime
  simp only [available?_eq, Option.bind_eq_bind, Option.bind_some]
  by_cases hle : amount ≤ q.available p now
  · rw [if_pos hle, if_pos hle]
    rfl
  by_cases hl : q.limit = 0
  · rw [if_neg hle, if_neg hle, if_pos hl, if_pos hl]
    rfl
  obtain ⟨needed, hneeded, -⟩ := Wide.mul?_widen (amount - q.available p now) p.seconds
  rw [if_neg hle, if_neg hle, if_neg hl, if_neg hl,
    Word.sub?_of_le (UInt64.le_of_lt (UInt64.not_le.1 hle))]
  simp only [hneeded, Wide.divCeil?_eq needed (Wide.widen_ne_zero hl), Option.bind_some]
  split
  · rename_i time htime
    rw [htime]
    rfl
  · rename_i hnone
    rw [hnone]
    rfl

theorem neverTraps (p : Period) (q : Quota) : q.NeverTraps p where
  available := available?_eq p q
  releaseTime := releaseTime?_eq p q
  spend now amount onShortage := by
    unfold spend? spend
    simp only [available?_eq, releaseTime?_eq, Option.bind_eq_bind, Option.bind_some]
    by_cases hle : amount ≤ q.available p now
    · rw [if_pos hle, if_pos hle, Word.sub?_of_le hle]
      rfl
    · rw [if_neg hle, if_neg hle]
      cases onShortage <;> rfl
  drain now amount := by
    unfold drain?
    rw [available?_eq]
    rfl
  refund now amount := by
    unfold refund?
    rw [available?_eq]
    rfl
  resize now limit := by
    unfold resize? resize
    simp only [available?_eq, Option.bind_eq_bind, Option.bind_some]
    by_cases hlt : limit < q.limit
    · rw [if_pos hlt, if_pos hlt, Word.sub?_of_le (UInt64.le_of_lt hlt)]
      rfl
    · rw [if_neg hlt, if_neg hlt, Word.sub?_of_le (UInt64.not_lt.1 hlt)]
      rfl

/-! ## Quotas over the integers -/

/-- A quota over the integers, together with its period. -/
structure Ideal where
  seconds : Int
  limit : Int
  remaining : Int
  asOf : Int

namespace Ideal

variable (i : Ideal) (now amount : Int)

def available : Int :=
  if i.seconds = 0 then i.limit
  else min (i.remaining + max (now - i.asOf) 0 * i.limit / i.seconds) i.limit

/-- The time at which what is missing has refilled; the wait for it is rounded up. -/
def releaseTime : Int := now + -(-((amount - i.available now) * i.seconds) / i.limit)

def recordAt (remaining : Int) : Ideal := { i with remaining, asOf := max now i.asOf }

def spend : Ideal := i.recordAt now (i.available now - amount)

def drain : Ideal := i.recordAt now (max (i.available now - amount) 0)

def refund : Ideal := i.recordAt now (min (i.available now + amount) i.limit)

def resize (limit : Int) : Ideal :=
  { i.recordAt now (min (max (i.available now + (limit - i.limit)) 0) limit) with limit }

end Ideal

def ideal (p : Period) (q : Quota) : Ideal :=
  ⟨toInt p.seconds, toInt q.limit, toInt q.remaining, toInt q.asOf⟩

/-- The operations on the quota compute what those on its ideal quota do. -/
structure ComputesIdeal (p : Period) (q : Quota) : Prop where
  available : ∀ now, toInt (q.available p now) = (q.ideal p).available (toInt now)
  /-- There is a release time unless nothing refills or time is over by then. -/
  releaseTime : ∀ now amount t, q.releaseTime p now amount = .ok t ↔
    if toInt amount ≤ (q.ideal p).available (toInt now) then t = now
    else q.limit ≠ 0 ∧ toInt t = (q.ideal p).releaseTime (toInt now) (toInt amount)
  noReleaseTime : ∀ now amount err, q.releaseTime p now amount = .error err ↔
    (q.ideal p).available (toInt now) < toInt amount ∧
      (q.limit = 0 ∧ err = .rateLimitExceeded amount (q.available p now) ∨
        0 < q.limit ∧ 2 ^ 64 - 1 < (q.ideal p).releaseTime (toInt now) (toInt amount) ∧
          err = .overflow "queue release time")
  spent : ∀ now amount onShortage next, q.spend p now amount onShortage = .ok (.spent next) ↔
    toInt amount ≤ (q.ideal p).available (toInt now) ∧
      next.ideal p = (q.ideal p).spend (toInt now) (toInt amount)
  queued : ∀ now amount onShortage t, q.spend p now amount onShortage = .ok (.queued t) ↔
    (q.ideal p).available (toInt now) < toInt amount ∧ onShortage = .queue ∧
      q.releaseTime p now amount = .ok t
  refused : ∀ now amount onShortage err, q.spend p now amount onShortage = .error err ↔
    (q.ideal p).available (toInt now) < toInt amount ∧
      match onShortage with
      | .refuse => err = .rateLimitExceeded amount (q.available p now)
      | .queue => q.releaseTime p now amount = .error err
  drain : ∀ now amount,
    (q.drain p now amount).ideal p = (q.ideal p).drain (toInt now) (toInt amount)
  refund : ∀ now amount,
    (q.refund p now amount).ideal p = (q.ideal p).refund (toInt now) (toInt amount)
  resize : ∀ now limit,
    (q.resize p now limit).ideal p = (q.ideal p).resize (toInt now) (toInt limit)

theorem toInt_available (p : Period) (q : Quota) (now : UInt64) :
    toInt (q.available p now) = (q.ideal p).available (toInt now) := by
  show _ = if toInt p.seconds = 0 then toInt q.limit
    else min (toInt q.remaining + max (toInt now - toInt q.asOf) 0 * toInt q.limit / toInt p.seconds)
      (toInt q.limit)
  by_cases hp : p.seconds = 0
  · rw [available, if_pos hp, if_pos (by rw [hp]; rfl)]
  · have hseconds : toInt p.seconds ≠ 0 := fun h => hp (Word.toInt_inj.1 h)
    have helapsed : max (toInt now - toInt q.asOf) 0 = ((now.toNat - q.asOf.toNat : Nat) : Int) := by
      unfold toInt
      omega
    rw [if_neg hseconds, helapsed, toInt, toNat_available hp, refill]
    unfold toInt
    rw [← Int.natCast_mul, ← Int.natCast_ediv]
    omega

theorem toInt_le_available_iff :
    toInt amount ≤ (q.ideal p).available (toInt now) ↔ amount ≤ q.available p now := by
  rw [← toInt_available, Word.le_iff_toInt_le]

theorem available_lt_toInt_iff :
    (q.ideal p).available (toInt now) < toInt amount ↔ ¬ amount ≤ q.available p now := by
  rw [← toInt_le_available_iff, Int.not_le]

theorem ideal_inj {q' : Quota} : q.ideal p = q'.ideal p ↔ q = q' := by
  obtain ⟨limit, remaining, asOf⟩ := q
  obtain ⟨limit', remaining', asOf'⟩ := q'
  simp only [ideal, Ideal.mk.injEq, Word.toInt_inj, mk.injEq, true_and]

theorem ideal_recordAt (p : Period) (q : Quota) (now remaining : UInt64) :
    (q.recordAt now remaining).ideal p = (q.ideal p).recordAt (toInt now) (toInt remaining) := by
  simp only [recordAt, ideal, Ideal.recordAt, Word.toInt_max]

/-! ## Release times -/

/-- The wait over the integers. -/
theorem natCast_wait {limit : UInt64} (hl : limit ≠ 0) (missing : Nat) :
    ((wait p limit missing : Nat) : Int) = -(-((missing : Int) * toInt p.seconds) / toInt limit) := by
  have hlimit : 0 < limit.toNat := Nat.pos_of_ne_zero fun h => hl (UInt64.toNat_inj.1 h)
  have hle := Nat.div_mul_le_self (missing * p.seconds.toNat + limit.toNat - 1) limit.toNat
  have hlt := Nat.lt_div_mul_add (a := missing * p.seconds.toNat + limit.toNat - 1) hlimit
  unfold wait toInt
  rw [← Int.natCast_mul]
  set needed := missing * p.seconds.toNat
  set seconds := (needed + limit.toNat - 1) / limit.toNat
  have hquotient : -(needed : Int) / limit.toNat = -seconds := by
    rw [Int.ediv_eq_iff_of_pos (Int.natCast_pos.2 hlimit), Int.neg_mul, ← Int.natCast_mul]
    omega
  rw [hquotient, Int.neg_neg]

theorem toInt_releaseTime (hlt : (q.available p now).toNat < amount.toNat) (hl : q.limit ≠ 0) :
    (q.ideal p).releaseTime (toInt now) (toInt amount) =
      ((now.toNat + wait p q.limit (amount.toNat - (q.available p now).toNat) : Nat) : Int) := by
  have hmissing : toInt amount - (q.ideal p).available (toInt now) =
      ((amount.toNat - (q.available p now).toNat : Nat) : Int) := by
    rw [← toInt_available]
    unfold toInt
    omega
  rw [Ideal.releaseTime, hmissing, Int.natCast_add, natCast_wait hl]
  rfl

theorem releaseTime_eq_ok_iff :
    q.releaseTime p now amount = .ok t ↔
      if toInt amount ≤ (q.ideal p).available (toInt now) then t = now
      else q.limit ≠ 0 ∧ toInt t = (q.ideal p).releaseTime (toInt now) (toInt amount) := by
  by_cases hle : amount ≤ q.available p now
  · rw [if_pos (toInt_le_available_iff.2 hle), releaseTime, if_pos hle, Except.ok.injEq]
    exact eq_comm
  · rw [if_neg fun h => hle (toInt_le_available_iff.1 h)]
    have hlt := UInt64.lt_iff_toNat_lt.1 (UInt64.not_le.1 hle)
    rw [Quota.releaseTime_eq_ok hlt]
    refine and_congr_right fun hl => ?_
    rw [toInt_releaseTime hlt hl, toInt, Int.ofNat_inj]

/-- If the quota refills, a release time that cannot be given is beyond the end of time. -/
theorem releaseTime_eq_overflow (hle : ¬ amount ≤ q.available p now) (hl : q.limit ≠ 0) :
    q.releaseTime p now amount = .error err ↔
      2 ^ 64 - 1 < (q.ideal p).releaseTime (toInt now) (toInt amount) ∧
        err = .overflow "queue release time" := by
  have hlt := UInt64.lt_iff_toNat_lt.1 (UInt64.not_le.1 hle)
  have hsize : UInt64.size = 2 ^ 64 := rfl
  have hexists := exists_releaseTime_iff hlt
  simp only [NeverFits, hlt, hl, true_and, false_or, Nat.not_le] at hexists
  rw [toInt_releaseTime hlt hl]
  cases hr : q.releaseTime p now amount with
  | ok t =>
    have hsmall := hexists.1 ⟨t, hr⟩
    constructor
    · intro h
      cases h
    · rintro ⟨hlate, -⟩
      omega
  | error e =>
    have hlarge : ¬ ∃ t, q.releaseTime p now amount = .ok t := by
      rintro ⟨t, ht⟩
      cases hr.symm.trans ht
    rw [hexists] at hlarge
    have hcause := releaseTime_eq_error hr
    rw [if_neg hl] at hcause
    rw [Except.error.injEq, hcause]
    constructor
    · rintro rfl
      refine ⟨?_, rfl⟩
      omega
    · rintro ⟨-, rfl⟩
      rfl

theorem releaseTime_eq_error_iff :
    q.releaseTime p now amount = .error err ↔
      (q.ideal p).available (toInt now) < toInt amount ∧
        (q.limit = 0 ∧ err = .rateLimitExceeded amount (q.available p now) ∨
          0 < q.limit ∧ 2 ^ 64 - 1 < (q.ideal p).releaseTime (toInt now) (toInt amount) ∧
            err = .overflow "queue release time") := by
  rw [available_lt_toInt_iff, UInt64.pos_iff_ne_zero]
  by_cases hle : amount ≤ q.available p now
  · rw [releaseTime, if_pos hle]
    refine iff_of_false (fun h => ?_) fun h => h.1 hle
    cases h
  by_cases hl : q.limit = 0
  · simp only [releaseTime, hle, hl, ↓reduceIte, Except.error.injEq, not_false_eq_true, true_and,
      ne_eq, not_true, false_and, or_false]
    exact eq_comm
  · simp only [releaseTime_eq_overflow hle hl, hle, hl, not_false_eq_true, true_and, false_and,
      ne_eq, false_or]

/-! ## The operations -/

theorem spend_eq_spent_iff {onShortage : OnShortage} {next : Quota} :
    q.spend p now amount onShortage = .ok (.spent next) ↔
      toInt amount ≤ (q.ideal p).available (toInt now) ∧
        next.ideal p = (q.ideal p).spend (toInt now) (toInt amount) := by
  have hideal (hle : amount ≤ q.available p now) :
      (q.ideal p).spend (toInt now) (toInt amount) =
        (q.recordAt now (q.available p now - amount)).ideal p := by
    rw [ideal_recordAt, Word.toInt_sub_of_le hle, toInt_available, Ideal.spend]
  rw [toInt_le_available_iff]
  constructor
  · intro h
    obtain ⟨hle, rfl⟩ := spend_eq_spent h
    rw [← UInt64.le_iff_toNat_le] at hle
    exact ⟨hle, (hideal hle).symm⟩
  · rintro ⟨hle, hnext⟩
    rw [hideal hle, ideal_inj] at hnext
    rw [hnext, spend_of_le hle]

theorem ideal_drain (p : Period) (q : Quota) (now amount : UInt64) :
    (q.drain p now amount).ideal p = (q.ideal p).drain (toInt now) (toInt amount) := by
  rw [drain, ideal_recordAt, Word.toInt_subSat, toInt_available, Ideal.drain]

theorem ideal_refund (p : Period) (q : Quota) (now amount : UInt64) :
    (q.refund p now amount).ideal p = (q.ideal p).refund (toInt now) (toInt amount) := by
  rw [refund, ideal_recordAt, Word.toInt_min_addSat, toInt_available]
  rfl

theorem ideal_resize (p : Period) (q : Quota) (now limit : UInt64) :
    (q.resize p now limit).ideal p = (q.ideal p).resize (toInt now) (toInt limit) := by
  have hcapacity := toInt_available p q now
  have hshifted : toInt (q.resize p now limit).remaining =
      min (max ((q.ideal p).available (toInt now) + (toInt limit - toInt q.limit)) 0)
        (toInt limit) := by
    show toInt (min (if limit < q.limit then _ else _) limit) = _
    rw [← hcapacity]
    by_cases hlt : limit < q.limit
    · rw [if_pos hlt, Word.toInt_min, Word.toInt_subSat,
        Word.toInt_sub_of_le (UInt64.le_of_lt hlt)]
      omega
    · have hle := UInt64.not_lt.1 hlt
      have hmore := Word.le_iff_toInt_le.1 hle
      have hnonneg := Word.toInt_nonneg (q.available p now)
      rw [if_neg hlt, Word.toInt_min_addSat, Word.toInt_sub_of_le hle]
      omega
  show Ideal.mk _ _ _ _ = Ideal.mk _ _ _ _
  rw [hshifted]
  simp only [resize, Word.toInt_max]
  rfl

/-- **The arithmetic of quotas is exact**: in words, every operation computes what the formula says
over the integers, and on the way nothing overflows, underflows or is divided by zero. No
assumption is made about the record; it may also have more left than its limit. -/
theorem arithmetic_exact (p : Period) (q : Quota) : q.ComputesIdeal p ∧ q.NeverTraps p := by
  refine ⟨⟨toInt_available p q, fun _ _ _ => releaseTime_eq_ok_iff,
    fun _ _ _ => releaseTime_eq_error_iff, fun _ _ _ _ => spend_eq_spent_iff, fun _ _ _ _ => ?_,
    fun _ _ _ _ => ?_, ideal_drain p q, ideal_refund p q, ideal_resize p q⟩, neverTraps p q⟩
  · rw [available_lt_toInt_iff, UInt64.not_le]
    exact spend_eq_queued
  · rw [available_lt_toInt_iff, UInt64.not_le]
    exact spend_eq_error

/-- In the last second, with a limit of all that a word can count, the capacity is still exact. -/
example : (⟨18446744073709551615, 0, 0⟩ : Quota).available ⟨1⟩ 18446744073709551615 =
    18446744073709551615 := by decide

end Quota

end TokenBridge
