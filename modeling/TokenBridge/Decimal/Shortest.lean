/-!
# The shortest decimal that reads back

A finite double is an integer `m` times a power of two. The reals that round to it
form an interval around it whose ends count exactly when `m` is even. `shortest`
looks for the coarsest decimal grid with a point in that interval: on each grid
only the two neighbours of the value can qualify, and of two that do the nearer
wins. A `Tie` says which of two that are equally near.
-/

namespace TokenBridge.Decimal

/-- A positive fraction. -/
structure Ratio where
  num : Nat
  den : Nat
  deriving DecidableEq, Repr

namespace Ratio

def le (a b : Ratio) : Bool := a.num * b.den ≤ b.num * a.den

def lt (a b : Ratio) : Bool := a.num * b.den < b.num * a.den

/-- `n * base ^ e`. -/
def scaled (n base : Nat) (e : Int) : Ratio :=
  if 0 ≤ e then ⟨n * Nat.pow base e.toNat, 1⟩ else ⟨n, Nat.pow base (-e).toNat⟩

def add (a b : Ratio) : Ratio := ⟨a.num * b.den + b.num * a.den, a.den * b.den⟩

end Ratio

/-- Which of two decimals at the same distance is taken. -/
inductive Tie where
  | up
  /-- The one whose last digit is even. -/
  | even
  deriving DecidableEq, Repr

/-- Whether the larger of two neighbours is taken, the smaller of which is `below` steps. -/
def Tie.takesLarger (tie : Tie) (below : Nat) : Bool :=
  match tie with
  | up => true
  | even => below % 2 == 1

/-- The sign, integer part and binary exponent of a finite double. -/
structure Parts where
  negative : Bool
  mantissa : Nat
  exponent : Int
  /-- The gap to the next smaller double is half the gap to the next larger one. -/
  narrowBelow : Bool
  deriving DecidableEq, Repr

/-- The leading bit of a normal double, just above the 52 that are stored. -/
def hiddenBit : Nat := 4503599627370496

def Parts.ofBits (bits : Nat) : Parts :=
  let fraction : Nat := bits % hiddenBit
  let biased : Nat := bits / hiddenBit % 2048
  let negative := bits / hiddenBit / 2048 % 2 == 1
  if biased = 0 then ⟨negative, fraction, -1074, false⟩
  else ⟨negative, hiddenBit + fraction, (biased : Int) - 1075, fraction == 0 && biased != 1⟩

/-- Decimal digits as an integer, times a power of ten. -/
structure Digits where
  digits : Nat
  exponent : Int
  deriving DecidableEq, Repr

namespace Parts

def value (p : Parts) : Ratio := Ratio.scaled p.mantissa 2 p.exponent

/-- Half way to the next smaller double. -/
def lower (p : Parts) : Ratio :=
  if p.narrowBelow then Ratio.scaled (4 * p.mantissa - 1) 2 (p.exponent - 2)
  else Ratio.scaled (2 * p.mantissa - 1) 2 (p.exponent - 1)

/-- Half way to the next larger double. -/
def upper (p : Parts) : Ratio := Ratio.scaled (2 * p.mantissa + 1) 2 (p.exponent - 1)

/-- Whether a real rounds to this double. -/
def holds (p : Parts) (r : Ratio) : Bool :=
  if p.mantissa % 2 = 0 then p.lower.le r && r.le p.upper
  else p.lower.lt r && r.lt p.upper

/-- The least `e` with the value below `10 ^ e`. -/
def magnitude (p : Parts) : Int :=
  let v := p.value
  let guess : Int := (Nat.toDigits 10 v.num).length - (Nat.toDigits 10 v.den).length
  if v.lt (Ratio.scaled 1 10 guess) then guess else guess + 1

/-- The best point with `count` digits, if one rounds to the double. -/
def onGrid? (p : Parts) (tie : Tie) (count : Nat) : Option Digits :=
  let v := p.value
  let e := p.magnitude - count
  let step := Ratio.scaled 1 10 e
  let below := v.num * step.den / (v.den * step.num)
  let under := Ratio.scaled below 10 e
  let next := Ratio.scaled (below + 1) 10 e
  match below != 0 && p.holds under, p.holds next with
  | false, false => none
  | true, false => some ⟨below, e⟩
  | false, true => some ⟨below + 1, e⟩
  | true, true =>
    let twice := v.add v
    let between := under.add next
    if between.lt twice || (between.le twice && tie.takesLarger below) then some ⟨below + 1, e⟩
    else some ⟨below, e⟩

def exact (p : Parts) : Digits :=
  if 0 ≤ p.exponent then ⟨p.mantissa * Nat.pow 2 p.exponent.toNat, 0⟩
  else ⟨p.mantissa * Nat.pow 5 (-p.exponent).toNat, p.exponent⟩

/-- The grids from one to seventeen digits, coarsest first; seventeen always suffice. -/
def shortest (p : Parts) (tie : Tie) : Digits :=
  ((List.range 17).findSome? fun k => p.onGrid? tie (k + 1)).getD p.exact

end Parts

/-- Digits with no zero at the end. -/
def Digits.significant (d : Digits) : List Char :=
  ((Nat.toDigits 10 d.digits).reverse.dropWhile (· == '0')).reverse

/-- How many digits stand before the decimal point (negative when zeros follow it). -/
def Digits.point (d : Digits) : Int := (Nat.toDigits 10 d.digits).length + d.exponent

/-- The digits written out around the decimal point, with no exponent. -/
def positional (digits : List Char) (point : Int) : List Char :=
  if point ≤ 0 then '0' :: '.' :: (List.replicate (-point).toNat '0' ++ digits)
  else if digits.length ≤ point.toNat then
    digits ++ List.replicate (point.toNat - digits.length) '0'
  else digits.take point.toNat ++ '.' :: digits.drop point.toNat

/-- A double in positional form: whole values have no point, no exponent is ever used, and a
tie goes up. -/
def plainText (x : Float) : String :=
  if x.isNaN then "NaN"
  else
    let p := Parts.ofBits x.toBits.toNat
    let body :=
      if x.isInf then ['i', 'n', 'f']
      else if p.mantissa = 0 then ['0']
      else
        let d := p.shortest .up
        positional d.significant d.point
    String.ofList (if p.negative then '-' :: body else body)

end TokenBridge.Decimal
