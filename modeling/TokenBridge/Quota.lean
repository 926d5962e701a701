import TokenBridge.Error
import TokenBridge.Word

/-!
# Refilling quotas

A `Quota` records how much of a limit remained at a moment. It refills linearly, from
empty to the limit over one `Period`, so what is `available` later is computed from
the record alone. Every operation reads the quota at a time and returns the next
record; a time before the record refills nothing and does not move it back.
-/

namespace TokenBridge

/-- Seconds for a refill from empty to full; zero means that a quota is always full. -/
structure Period where
  seconds : UInt64
  deriving DecidableEq, Repr

def Period.day : Period := ⟨86400⟩

structure Quota where
  limit : UInt64
  /-- What remained at `asOf`. -/
  remaining : UInt64
  asOf : UInt64
  deriving DecidableEq, Repr

/-- What to do with a spending that does not fit. -/
inductive OnShortage where
  | refuse
  | queue
  deriving DecidableEq, Repr

/-- A spending that took place, or the time at which it will fit. -/
inductive Spending where
  | spent (next : Quota)
  | queued (releaseAt : UInt64)
  deriving DecidableEq, Repr

namespace Quota

def full (limit now : UInt64) : Quota := ⟨limit, limit, now⟩

def partly (limit remaining asOf : UInt64) : Except Error Quota :=
  if limit < remaining then
    .error (.misconfigured
      s!"rate limit capacity {remaining.toNat} exceeds limit {limit.toNat}")
  else .ok ⟨limit, remaining, asOf⟩

def available (p : Period) (q : Quota) (now : UInt64) : UInt64 :=
  if p.seconds = 0 then q.limit
  else
    let limit := Word.widen q.limit
    let refilled := Word.widen (Word.subSat now q.asOf) * limit / Word.widen p.seconds
    let total := Word.widen q.remaining + refilled
    UInt64.ofBitVec ((if total ≤ limit then total else limit).setWidth 64)

/-- When `amount` will have refilled if nothing else is spent. An amount above the
limit waits as if the quota could overfill. -/
def releaseTime (p : Period) (q : Quota) (now amount : UInt64) : Except Error UInt64 :=
  let capacity := q.available p now
  if amount ≤ capacity then .ok now
  else if q.limit = 0 then .error (.rateLimitExceeded amount capacity)
  else
    let release := do
      let needed ← Wide.mul? (Word.widen (amount - capacity)) (Word.widen p.seconds)
      let wait ← Wide.narrow? (Wide.divCeil needed (Word.widen q.limit))
      Word.add? now wait
    match release with
    | some t => .ok t
    | none => .error (.overflow "queue release time")

/-- The record after a reading at `now` that leaves `remaining`. -/
def recordAt (q : Quota) (now remaining : UInt64) : Quota := ⟨q.limit, remaining, max now q.asOf⟩

def spend (p : Period) (q : Quota) (now amount : UInt64) (onShortage : OnShortage) :
    Except Error Spending :=
  let capacity := q.available p now
  if amount ≤ capacity then .ok (.spent (q.recordAt now (capacity - amount)))
  else match onShortage with
    | .refuse => .error (.rateLimitExceeded amount capacity)
    | .queue => .queued <$> q.releaseTime p now amount

/-- Spends what is there, up to `amount`. -/
def drain (p : Period) (q : Quota) (now amount : UInt64) : Quota :=
  q.recordAt now (Word.subSat (q.available p now) amount)

/-- Gives an amount back, up to the limit. -/
def refund (p : Period) (q : Quota) (now amount : UInt64) : Quota :=
  q.recordAt now (min (Word.addSat (q.available p now) amount) q.limit)

/-- Changes the limit and keeps what has been spent of it. -/
def resize (p : Period) (q : Quota) (now limit : UInt64) : Quota :=
  let capacity := q.available p now
  let shifted :=
    if limit < q.limit then Word.subSat capacity (q.limit - limit)
    else Word.addSat capacity (limit - q.limit)
  ⟨limit, min shifted limit, max now q.asOf⟩

end Quota

end TokenBridge
