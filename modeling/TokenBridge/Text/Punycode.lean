/-!
# Texts in the letters and digits of ASCII

Punycode writes any text with letters, digits and hyphens: first its ASCII characters, then
a hyphen, then a number for each other character, lowest character first. A number says how
many steps lie between one insertion and the next, where a step goes to the next place in
the text and from its end to the beginning with the next character. The digits of a number
run from least to greatest and the last is below its threshold, which follows the size of
the numbers before. A number that exceeds 32 bits spells nothing.
-/

namespace TokenBridge.Text.Punycode

/-- Letters in either case are digits below 26, and decimal digits come after them. -/
def digit? (c : Char) : Option Nat :=
  if 'a' ≤ c ∧ c ≤ 'z' then some (c.toNat - 97)
  else if 'A' ≤ c ∧ c ≤ 'Z' then some (c.toNat - 65)
  else if '0' ≤ c ∧ c ≤ '9' then some (c.toNat - 22)
  else none

theorem digit?_lt {c : Char} {d : Nat} (h : digit? c = some d) : d < 36 := by
  have le {a b : Char} : a ≤ b ↔ a.toNat ≤ b.toNat := UInt32.le_iff_toNat_le
  have small : 'z'.toNat = 122 := rfl
  have capital : 'Z'.toNat = 90 := rfl
  have decimal : '9'.toNat = 57 := rfl
  simp only [digit?, le, small, capital, decimal] at h
  grind

/-- The least digit that is not the last one of a number, in the place counted by 36. -/
def threshold (place bias : Nat) : Nat := max 1 (min 26 (place - bias))

theorem threshold_bounds (place bias : Nat) :
    1 ≤ threshold place bias ∧ threshold place bias ≤ 26 := by
  simp only [threshold]
  omega

/-- Counts places, by 36, until a number is small. -/
def shrink (number places : Nat) : Nat :=
  if 455 < number then shrink (number / 35) (places + 36)
  else places + 36 * number / (number + 38)
termination_by number
decreasing_by exact Nat.div_lt_self (by omega) (by omega)

/-- The bias after a number for a text that has `count` characters now. -/
def nextBias (number count : Nat) (first : Bool) : Nat :=
  let number := if first then number / 700 else number / 2
  shrink (number + number / count) 0

/-- What has been read of a text. -/
structure Reading where
  text : List Char
  /-- The character to insert next. -/
  character : Nat
  /-- Where it goes, so far, counted on past the end of the text. -/
  position : Nat
  /-- Where the number that is being read started. -/
  start : Nat
  /-- The place of its next digit. -/
  place : Nat
  /-- The weight of its next digit. -/
  weight : Nat
  bias : Nat
  deriving DecidableEq, Repr

namespace Reading

def ofAscii (ascii : List Char) : Reading := ⟨ascii, 128, 0, 0, 36, 1, 72⟩

/-- Inserts the character of a complete number. -/
def insert? (r : Reading) : Option Reading :=
  let count := r.text.length + 1
  let character := r.character + r.position / count
  let offset := r.position % count
  if character.isValidChar then
    some { text := r.text.take offset ++ Char.ofNat character :: r.text.drop offset
           character
           position := offset + 1
           start := offset + 1
           place := 36
           weight := 1
           bias := nextBias (r.position - r.start) count (r.start == 0) }
  else none

/-- Reads a digit. -/
def next? (r : Reading) (c : Char) : Option Reading := do
  let digit ← digit? c
  let position := r.position + digit * r.weight
  let t := threshold r.place r.bias
  let weight := r.weight * (36 - t)
  if UInt32.size ≤ position then none
  else if digit < t then insert? { r with position }
  else if UInt32.size ≤ weight then none
  else some { r with position, weight, place := r.place + 36 }

end Reading

/-- The texts before and after the last hyphen. -/
def cutAtHyphen (cs : List Char) : List Char × List Char :=
  let digits := (cs.reverse.takeWhile (· ≠ '-')).reverse
  (cs.take (cs.length - digits.length - 1), digits)

/-- The text that is written with these letters, digits and hyphens. A hyphen needs ASCII
characters before it. -/
def decode? (cs : List Char) : Option (List Char) :=
  let (ascii, digits) := cutAtHyphen cs
  if (ascii.isEmpty ∧ cs.contains '-') ∨ !ascii.all (·.toNat < 128) then none
  else
    match digits.foldlM Reading.next? (.ofAscii ascii) with
    | some r => if r.place = 36 then some r.text else none
    | none => none

end TokenBridge.Text.Punycode
