import TokenBridge.Decimal.Shortest

/-!
# Durations and pauses

A `Duration` is a whole number of nanoseconds, less than 64 bits of seconds. Waiting
times that grow by a factor are computed in floating-point seconds and rounded to the
nearest nanosecond, an even one on a tie. A `Pause` is a wait that a program asks for: of
an exact length, or around a number of seconds with a random spread that whoever waits
draws (`Pause.duration?`). A pause whose seconds are no duration, or whose spread leaves
nothing to draw from, cannot be taken.
-/

namespace TokenBridge

structure Duration where
  nanos : Nat
  fits : nanos < UInt64.size * 1000000000
  deriving DecidableEq, Repr

/-- The smaller of two numbers; a missing one does not count. -/
def smaller (a b : Float) : Float :=
  if a.isNaN then b else if b.isNaN then a else if b < a then b else a

/-- The larger of two numbers; a missing one does not count. -/
def larger (a b : Float) : Float :=
  if a.isNaN then b else if b.isNaN then a else if a < b then b else a

/-- A number moved between two others; a missing one stays missing. -/
def between (low high x : Float) : Float :=
  if x < low then low else if high < x then high else x

namespace Duration

def ofMillis (n : UInt64) : Duration :=
  ⟨n.toNat * 1000000, by have := n.toNat_lt_size; omega⟩

/-- Whole milliseconds, rounded down. -/
def millis (d : Duration) : Nat := d.nanos / 1000000

def toFloat (d : Duration) : Float :=
  (UInt64.ofNat (d.nanos / 1000000000)).toFloat
    + (UInt64.ofNat (d.nanos % 1000000000)).toFloat / 1000000000

/-- The integer nearest to `n / d`, an even one on a tie. -/
def nearest (n d : Nat) : Nat :=
  if 2 * (n % d) < d ∨ (2 * (n % d) = d ∧ n / d % 2 = 0) then n / d else n / d + 1

def ofNanos? (n : Nat) : Option Duration :=
  if h : n < UInt64.size * 1000000000 then some ⟨n, h⟩ else none

/-- The duration nearest to a number of seconds, if that is finite and not negative. -/
def ofFloat? (seconds : Float) : Option Duration :=
  match seconds.toModel.unpack with
  | .zero _ => ofNanos? 0
  | .finite .positive mantissa exponent _ =>
    let r := Decimal.Ratio.scaled mantissa 2 exponent
    ofNanos? (nearest (r.num * 1000000000) r.den)
  | _ => none

/-- The duration nearest to a number of seconds that is held between zero and `most`. -/
def capped? (most : Duration) (seconds : Float) : Option Duration :=
  ofFloat? (larger (smaller seconds most.toFloat) 0)

end Duration

inductive Pause where
  | exactly (length : Duration)
  /-- `spread` is the largest share of the seconds that chance adds or takes away. -/
  | around (seconds spread : Float) (most : Duration)

/-- How long a pause takes, given how to draw a random number from a range. There is nothing
to draw from a range that is out of order. -/
def Pause.duration? (draw : (low high : Float) → Float) : Pause → Option Duration
  | .exactly length => some length
  | .around seconds spread most => do
    let base := (← Duration.capped? most seconds).toFloat
    let spread := between 0 1 spread
    if spread == 0 || base == 0 then Duration.ofFloat? base
    else if 1 - spread ≤ 1 + spread then
      Duration.capped? most (base * draw (1 - spread) (1 + spread))
    else none

end TokenBridge
