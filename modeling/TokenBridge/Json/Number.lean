import TokenBridge.Decimal.Real
import TokenBridge.Decimal.Shortest

/-!
# Numbers in JSON

A `Numeral` is a number as it is written. `Numeral.read` gives its value: an integer
where a 64-bit word of either sign holds it, and a double otherwise. The double is
computed quickly rather than exactly, from the digits that fit into a word and one
multiplication or division by a power of ten, so it may be off in its last bit. Too
large a number has no value. `realText` writes a double with the fewest digits that read
back (of two such texts the nearer one, on a tie the even one), positionally from `0.00001`
up to sixteen digits before the point and with a signed exponent otherwise.
-/

namespace TokenBridge.Json

/-- Why a text cannot be read as a value of some kind. Reading goes from left to right and
the first problem counts. -/
inductive Problem where
  /-- It is not JSON here. -/
  | notJson
  /-- It is JSON of another shape. -/
  | wrongShape
  /-- It ends too early. -/
  | endsEarly
  deriving DecidableEq, Repr

inductive Number where
  | int (n : Int)
  /-- A double, by its bits. -/
  | real (bits : UInt64)
  deriving DecidableEq, Repr

/-- The digits of a number in their groups. -/
structure Numeral where
  negative : Bool
  whole : List Char
  fraction : List Char
  /-- Sign and digits. -/
  exponent : Option (Bool × List Char)
  deriving DecidableEq, Repr

/-- Digits gathered into a word, and how many digits of the last group did not fit. -/
structure Gathered where
  word : Nat
  dropped : Nat
  deriving DecidableEq, Repr

def gather (word : Nat) : List Char → Gathered
  | [] => ⟨word, 0⟩
  | c :: cs =>
    let next := word * 10 + (c.toNat - 48)
    if next < UInt64.size then gather next cs else ⟨word, cs.length + 1⟩

/-- The quick product of a word and a power of ten; nothing if it is infinite. Each step
after the first divides by `10 ^ 308`, and three of them leave nothing of any word. -/
def scaleBy : (steps : Nat) → Float → Int → Option Float
  | 0, _, _ => some 0
  | steps + 1, x, e =>
    if e.natAbs ≤ 308 then
      let power := Float.ofScientific 1 false e.natAbs
      if e < 0 then some (x / power)
      else
        let product := x * power
        if product.isInf then none else some product
    else if x == 0 then some x
    else if 0 ≤ e then none
    else scaleBy steps (x / Float.ofScientific 1 false 308) (e + 308)

namespace Numeral

/-- The value of an exponent; nothing if it does not fit into 31 bits. -/
def exponent? (digits : List Char) : Option Nat :=
  let n := Decimal.Real.natOfDigits digits
  if n < 2147483648 then some n else none

def signed (negative : Bool) (x : Float) : Number := .real (if negative then -x else x).toBits

/-- An integer, or the double next to one that is too long. -/
def wholeNumber (negative : Bool) (word : Nat) : Number :=
  if !negative then .int word
  else if word = 0 ∨ UInt64.size / 2 < word then signed true (UInt64.ofNat word).toFloat
  else .int (-word)

def realNumber (negative : Bool) (word : Nat) (e : Int) : Except Problem Number :=
  match scaleBy 4 (UInt64.ofNat word).toFloat e with
  | some x => .ok (signed negative x)
  | none => .error .notJson

/-- The value with an exponent applied after `start`. -/
def withExponent (negative : Bool) (word : Nat) (start : Int) (down : Bool) (digits : List Char) :
    Except Problem Number :=
  match exponent? digits with
  | none => if word ≠ 0 ∧ !down then .error .notJson else .ok (signed negative 0)
  | some e => realNumber negative word (if down then start - e else start + e)

def read (n : Numeral) : Except Problem Number :=
  let head := gather 0 n.whole
  if n.fraction.isEmpty ∧ n.exponent.isNone ∧ head.dropped = 0 then
    .ok (wholeNumber n.negative head.word)
  else
    let all := gather head.word n.fraction
    let start : Int := head.dropped - ((n.fraction.length : Int) - all.dropped)
    match n.exponent with
    | none => realNumber n.negative all.word start
    | some (down, digits) => withExponent n.negative all.word start down digits

/-- The value of a plain integer that is not negative. -/
def natural? (n : Numeral) : Option Nat :=
  if n.negative ∨ !n.fraction.isEmpty ∨ n.exponent.isSome then none
  else some (Decimal.Real.natOfDigits n.whole)

end Numeral

/-- The digits of a double in JSON. -/
def realDigits (digits : List Char) (point : Int) : List Char :=
  if 0 < point ∧ point ≤ 16 then
    if digits.length ≤ point.toNat then Decimal.positional digits point ++ ['.', '0']
    else Decimal.positional digits point
  else if -5 < point ∧ point ≤ 0 then Decimal.positional digits point
  else
    let mantissa :=
      match digits with
      | d :: e :: rest => d :: '.' :: e :: rest
      | _ => digits
    let e := point - 1
    mantissa ++ 'e' :: (if e < 0 then '-' else '+') :: Nat.toDigits 10 e.natAbs

def realText (bits : UInt64) : List Char :=
  let p := Decimal.Parts.ofBits bits.toNat
  let body :=
    if p.mantissa = 0 then ['0', '.', '0']
    else
      let d := p.shortest .even
      realDigits d.significant d.point
  if p.negative then '-' :: body else body

def Number.text : Number → List Char
  | .int n => (if n < 0 then ['-'] else []) ++ Nat.toDigits 10 n.natAbs
  | .real bits => realText bits

end TokenBridge.Json
