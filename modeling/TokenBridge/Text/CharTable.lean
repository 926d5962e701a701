import TokenBridge.Text.Split

/-!
# Tables of characters

Sets of characters and maps on them, written as text. A table is a list of entries between
spaces. An entry names code points in hexadecimal: `41` is one of them, `41-5A` all from a
first to a last one, and `100-12E/2` every second one of these. In a map the entry goes on
with what becomes of them: after `=` stands what takes the place of each, its code points
between dots, and after `>` what takes the place of the first, while the others keep their
distance to it.
-/

namespace TokenBridge.Text

namespace CharTable

/-- The number of a code point in hexadecimal digits. -/
def codePoint (digits : List Char) : Nat :=
  digits.foldl (fun n c => n * 16 + (if c.isDigit then c.toNat - 48 else c.toNat - 55)) 0

def entries (lines : List String) : List (List Char) := lines.flatMap fun l => split ' ' l.toList

end CharTable

open CharTable

/-- Code points from a first to a last one, `step` apart. -/
structure Run where
  first : Nat
  last : Nat
  step : Nat
  deriving DecidableEq, Repr

namespace Run

def contains (r : Run) (c : Char) : Bool :=
  r.first ≤ c.toNat && c.toNat ≤ r.last && (c.toNat - r.first) % r.step == 0

def ofText (entry : List Char) : Run :=
  let (bounds, step) :=
    match split '/' entry with
    | [bounds, step] => (bounds, codePoint step)
    | _ => (entry, 1)
  match split '-' bounds with
  | [first, last] => ⟨codePoint first, codePoint last, step⟩
  | _ => ⟨codePoint bounds, codePoint bounds, 1⟩

theorem contains_iff {r : Run} {c : Char} :
    r.contains c = true ↔ r.first ≤ c.toNat ∧ c.toNat ≤ r.last ∧
      (c.toNat - r.first) % r.step = 0 := by
  simp [contains, and_assoc]

end Run

/-- A set of characters. -/
structure CharSet where
  runs : List Run

namespace CharSet

def ofLines (lines : List String) : CharSet := ⟨(entries lines).map Run.ofText⟩

def contains (s : CharSet) (c : Char) : Bool := s.runs.any (·.contains c)

end CharSet

/-- What becomes of the characters of a run. -/
inductive Image where
  | each (cs : List Char)
  /-- The first becomes this code point. -/
  | shifted (first : Nat)
  deriving DecidableEq, Repr

/-- A partial map from characters to texts. -/
structure CharMap where
  rules : List (Run × Image)

namespace CharMap

def rule (entry : List Char) : Run × Image :=
  match split '=' entry, split '>' entry with
  | [run, image], _ =>
    (.ofText run, .each ((split '.' image).map fun digits => Char.ofNat (codePoint digits)))
  | _, [run, first] => (.ofText run, .shifted (codePoint first))
  | _, _ => (.ofText entry, .each [])

def ofLines (lines : List String) : CharMap := ⟨(entries lines).map rule⟩

/-- What a character becomes, if the table names it. -/
def get? (m : CharMap) (c : Char) : Option (List Char) :=
  match m.rules.find? (·.1.contains c) with
  | some (_, .each cs) => some cs
  | some (run, .shifted first) => some [Char.ofNat (first + (c.toNat - run.first))]
  | none => none

/-- The character that becomes this text, where one entry names it alone. -/
def origin? (m : CharMap) (cs : List Char) : Option Char :=
  (m.rules.find? (·.2 == .each cs)).map fun (run, _) => Char.ofNat run.first

end CharMap

end TokenBridge.Text
