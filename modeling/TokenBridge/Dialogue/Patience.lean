import TokenBridge.Dialogue
import TokenBridge.Error

/-!
# Trying again

Two ways to repeat an operation that is given the number of the attempt, from zero.
`retrying` repeats it after transient errors with waits that grow, and in the end
returns the last answer unchanged. `polling` repeats it at a fixed interval until it
has a value; it passes over transient errors and gives up with a timeout.
-/

namespace TokenBridge

structure RetryPolicy where
  /-- Attempts after the first. -/
  maxRetries : UInt32
  initial : Duration
  most : Duration
  multiplier : Float
  /-- Random spread of each wait, as a share of it. -/
  jitter : Float

structure PollSchedule where
  maxAttempts : UInt32
  interval : Duration
  deriving DecidableEq, Repr

namespace RetryPolicy

/-- `acc * base ^ n` by repeated squaring. -/
def powerTimes (acc base : Float) (n : Nat) : Float :=
  let acc := if n % 2 = 1 then acc * base else acc
  if n / 2 = 0 then acc else powerTimes acc (base * base) (n / 2)
termination_by n
decreasing_by omega

/-- Seconds that grow with the attempts, without a limit. Past the largest attempt of 31 bits
they stay the same. -/
def grown (p : RetryPolicy) (attempt : Nat) : Float :=
  p.initial.toFloat * powerTimes 1 p.multiplier (min attempt 2147483647)

/-- The wait after an attempt that failed, without the spread. -/
def backoff? (p : RetryPolicy) (attempt : Nat) : Option Duration :=
  Duration.capped? p.most (p.grown attempt)

def pause (p : RetryPolicy) (attempt : Nat) : Pause := .around (p.grown attempt) p.jitter p.most

def allows (p : RetryPolicy) (attempt : Nat) : Bool := attempt < p.maxRetries.toNat

end RetryPolicy

namespace Dialogue

variable {Q : Type} {R : Q → Type} {α : Type}

/-- This attempt and those after it. -/
def retryFrom (p : RetryPolicy) (op : Nat → Dialogue Q R (Except Error α)) (attempt : Nat) :
    Dialogue Q R (Except Error α) := do
  match ← op attempt with
  | .ok a => return .ok a
  | .error e =>
    if !e.isTransient then return .error e
    else if h : p.allows attempt then
      wait (p.pause attempt)
      retryFrom p op (attempt + 1)
    else return .error e
termination_by p.maxRetries.toNat - attempt
decreasing_by
  have := of_decide_eq_true h
  omega

def retrying (p : RetryPolicy) (op : Nat → Dialogue Q R (Except Error α)) :
    Dialogue Q R (Except Error α) :=
  retryFrom p op 0

/-- What ends a poll: a value or an error that will not pass. -/
def verdict? : Except Error (Option α) → Option (Except Error α)
  | .ok (some a) => some (.ok a)
  | .ok none => none
  | .error e => if e.isTransient then none else some (.error e)

/-- At most `left` attempts. -/
def pollFrom (s : PollSchedule) (op : Nat → Dialogue Q R (Except Error (Option α))) :
    (left attempt : Nat) → Dialogue Q R (Except Error α)
  | 0, _ => return .error (.timeout s.maxAttempts)
  | left + 1, attempt => do
    match verdict? (← op attempt) with
    | some r => return r
    | none =>
      if 0 < left then wait (.exactly s.interval)
      pollFrom s op left (attempt + 1)

def polling (s : PollSchedule) (op : Nat → Dialogue Q R (Except Error (Option α))) :
    Dialogue Q R (Except Error α) :=
  pollFrom s op s.maxAttempts.toNat 0

end Dialogue

end TokenBridge
