import TokenBridge.Decimal.Real
import TokenBridge.Text.Blank

/-!
# Points in time

An `Instant` counts seconds from the start of 1970 and nanoseconds within the
second; a leap second is held as a second with more than `10 ^ 9` nanoseconds.
`CivilDate.ofDays` and `toDays` convert between days and calendar dates. The two written
forms are `rfc3339` and `text`; `ofRfc3339?` reads the first leniently: blanks may
stand around the separators and before the offset, the year may carry a sign, and
the offset may be `Z`, `UTC`, or a sign with hours and minutes.
-/

namespace TokenBridge

structure Instant where
  seconds : Int
  nanos : Nat
  deriving DecidableEq, Repr

structure CivilDate where
  year : Int
  month : Nat
  day : Nat
  deriving DecidableEq, Repr

namespace CivilDate

def isLeap (year : Int) : Bool := year % 4 == 0 && (year % 100 != 0 || year % 400 == 0)

def daysInMonth (year : Int) (month : Nat) : Nat :=
  match month with
  | 2 => if isLeap year then 29 else 28
  | 4 | 6 | 9 | 11 => 30
  | _ => 31

/-- Years count from March here, so that the leap day ends a year. -/
def toDays (d : CivilDate) : Int :=
  let y : Int := if d.month ≤ 2 then d.year - 1 else d.year
  let m : Int := (d.month + 9) % 12
  let dayOfYear : Int := (153 * m + 2) / 5 + d.day - 1
  365 * y + y / 4 - y / 100 + y / 400 + dayOfYear - 719468

def ofDays (days : Int) : CivilDate :=
  let z := days + 719468
  let era := z / 146097
  let dayOfEra := z % 146097
  let yearOfEra := (dayOfEra - dayOfEra / 1460 + dayOfEra / 36524 - dayOfEra / 146096) / 365
  let dayOfYear := dayOfEra - (365 * yearOfEra + yearOfEra / 4 - yearOfEra / 100)
  let m := (5 * dayOfYear + 2) / 153
  let day := dayOfYear - (153 * m + 2) / 5 + 1
  let month := if m < 10 then m + 3 else m - 9
  let year := yearOfEra + era * 400
  ⟨if month ≤ 2 then year + 1 else year, month.toNat, day.toNat⟩

/-- The calendar that is supported. -/
def inRange (d : CivilDate) : Bool := -262143 ≤ d.year && d.year ≤ 262142

def isValid (d : CivilDate) : Bool :=
  d.inRange && 1 ≤ d.month && d.month ≤ 12 && 1 ≤ d.day && d.day ≤ daysInMonth d.year d.month

end CivilDate

namespace Instant

/-- The first and last second of the supported calendar. -/
def minSeconds : Int := -8334601228800

def maxSeconds : Int := 8210266876799

def ofSeconds? (n : Int) : Option Instant :=
  if minSeconds ≤ n ∧ n ≤ maxSeconds then some ⟨n, 0⟩ else none

/-- Whether `a` is no later than `b`. -/
def le (a b : Instant) : Bool := a.seconds < b.seconds || (a.seconds == b.seconds && a.nanos ≤ b.nanos)

instance : LE Instant := ⟨fun a b => a.le b = true⟩

instance : LT Instant :=
  ⟨fun a b => a.seconds < b.seconds ∨ (a.seconds = b.seconds ∧ a.nanos < b.nanos)⟩

instance (a b : Instant) : Decidable (a ≤ b) := inferInstanceAs (Decidable (a.le b = true))

instance (a b : Instant) : Decidable (a < b) :=
  inferInstanceAs (Decidable (a.seconds < b.seconds ∨ (a.seconds = b.seconds ∧ a.nanos < b.nanos)))

theorem not_le {a b : Instant} : ¬ a.le b = true ↔ b < a := by
  show _ ↔ b.seconds < a.seconds ∨ (b.seconds = a.seconds ∧ b.nanos < a.nanos)
  simp only [le, Bool.or_eq_true, Bool.and_eq_true, decide_eq_true_eq, beq_iff_eq]
  omega

/-! ## Writing -/

def padded (width n : Nat) : List Char :=
  let digits := Nat.toDigits 10 n
  List.replicate (width - digits.length) '0' ++ digits

/-- Four digits, or a sign and at least four digits outside the first ten millennia. -/
def yearText (y : Int) : List Char :=
  if 0 ≤ y ∧ y ≤ 9999 then padded 4 y.toNat
  else (if y < 0 then '-' else '+') :: padded 4 y.natAbs

/-- The fewest of 0, 3, 6 and 9 digits that are exact. -/
def fractionText (nanos : Nat) : List Char :=
  if nanos = 0 then []
  else if nanos % 1000000 = 0 then '.' :: padded 3 (nanos / 1000000)
  else if nanos % 1000 = 0 then '.' :: padded 6 (nanos / 1000)
  else '.' :: padded 9 nanos

/-- Date and time of day in universal time with a character between them. -/
def civilText (between : Char) (t : Instant) : List Char :=
  let date := CivilDate.ofDays (t.seconds / 86400)
  let ofDay := (t.seconds % 86400).toNat
  let leap := if 1000000000 ≤ t.nanos then 1 else 0
  yearText date.year ++ '-' :: (padded 2 date.month ++ '-' :: (padded 2 date.day ++ between ::
    (padded 2 (ofDay / 3600) ++ ':' :: (padded 2 (ofDay / 60 % 60) ++ ':' ::
      (padded 2 (ofDay % 60 + leap) ++ fractionText (t.nanos % 1000000000))))))

def rfc3339 (t : Instant) : String := String.ofList (civilText 'T' t ++ ['Z'])

def text (t : Instant) : String := String.ofList (civilText ' ' t) ++ " UTC"

/-! ## Reading -/

abbrev Reader (α : Type) := StateT (List Char) Option α

def skipBlanks : Reader Unit := modify Text.trimStart

/-- One to `most` digits. -/
def number (most : Nat) : Reader Nat := do
  let cs ← get
  let digits := (cs.takeWhile Decimal.Real.isDigit).take most
  if digits.isEmpty then failure
  else
    set (cs.drop digits.length)
    return Decimal.Real.natOfDigits digits

/-- A number within bounds, after blanks. -/
def field (low high : Nat) : Reader Nat := do
  skipBlanks
  let n ← number 2
  if low ≤ n ∧ n ≤ high then return n else failure

def mark (accepted : Char → Bool) : Reader Char := do
  match ← get with
  | c :: rest => if accepted c then set rest; return c else failure
  | [] => failure

def separator (c : Char) : Reader Unit := do
  skipBlanks
  discard <| mark (· == c)

/-- Four digits at most, or a sign and any number of digits. -/
def year : Reader Int := do
  skipBlanks
  let cs ← get
  match cs with
  | '-' :: rest => set rest; return -(← number rest.length : Nat)
  | '+' :: rest => set rest; return (← number rest.length : Nat)
  | _ => return (← number 4 : Nat)

/-- Nanoseconds of a decimal fraction; digits past the ninth are dropped. -/
def fraction : Reader Nat := do
  match ← get with
  | '.' :: rest =>
    let digits := rest.takeWhile Decimal.Real.isDigit
    if digits.isEmpty then failure
    else
      set (rest.drop digits.length)
      let kept := digits.take 9
      return Decimal.Real.natOfDigits kept * Nat.pow 10 (9 - kept.length)
  | _ => return 0

def twoDigits (high : Nat) : Reader Nat := do
  let a ← mark Decimal.Real.isDigit
  let b ← mark Decimal.Real.isDigit
  let n := Decimal.Real.natOfDigits [a, b]
  if n ≤ high then return n else failure

/-- Seconds east of universal time. -/
def offset : Reader Int := do
  skipBlanks
  match ← get with
  | 'Z' :: rest => set rest; return 0
  | 'z' :: rest => set rest; return 0
  | u :: t :: c :: rest =>
    if u.toUpper == 'U' && t.toUpper == 'T' && c.toUpper == 'C' then
      set rest
      return 0
    else numeric
  | _ => numeric
where
  numeric : Reader Int := do
    let sign ← mark fun c => c == '+' || c == '-' || c == '\u2212'
    let hours ← twoDigits 99
    modify fun cs => cs.dropWhile fun c => c == ':' || Text.isBlank c
    let minutes ← twoDigits 59
    let total : Int := 3600 * hours + 60 * minutes
    if total < 86400 then return (if sign == '+' then total else -total) else failure

def reader : Reader Instant := do
  let y ← year
  separator '-'
  let month ← field 1 12
  separator '-'
  let day ← field 1 31
  discard <| mark fun c => c == 'T' || c == 't' || c == ' '
  let hour ← field 0 23
  separator ':'
  let minute ← field 0 59
  separator ':'
  let second ← field 0 60
  let nanos ← fraction
  let east ← offset
  skipBlanks
  let date : CivilDate := ⟨y, month, day⟩
  let leap := second == 60
  let seconds : Int := date.toDays * 86400 + 3600 * hour + 60 * minute
    + (if leap then 59 else second) - east
  if !date.isValid || !(← get).isEmpty || seconds < minSeconds || maxSeconds < seconds then failure
  else return ⟨seconds, if leap then 1000000000 + nanos else nanos⟩

def ofRfc3339? (s : String) : Option Instant := (reader.run s.toList).map (·.1)

end Instant

end TokenBridge
