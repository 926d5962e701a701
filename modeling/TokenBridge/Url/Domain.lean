import TokenBridge.Text.Composition
import TokenBridge.Text.Direction
import TokenBridge.Text.Joining
import TokenBridge.Text.Punycode
import TokenBridge.Text.Split
import TokenBridge.Url.Domain.Mapping

/-!
# Domain names

`Domain.normal?` gives the normal form of a domain name in any script: its characters are
mapped and composed. Each of its labels, the parts between dots, has to be well formed; a
label that starts with `xn--` spells another one with ASCII characters, and that one counts.
A name with a character that is written from right to left has to keep apart the directions
in all of its labels.
-/

namespace TokenBridge.Url.Domain

open Text

/-! ## Characters -/

/-- ASCII characters that no name holds. -/
def forbidden (c : Char) : Bool :=
  c.toNat ≤ 32 || c.toNat = 127 || "%#/:<>?@[\\]^|".toList.contains c

/-- Mapped and composed characters. -/
def normalized? (name : List Char) : Option (List Char) :=
  (compose ·.flatten) <$> name.mapM mapChar?

/-! ## Joiners -/

/-- Whether a joiner or a non-joiner has a meaning between these texts, the one before it
nearest first. -/
def joins (c : Char) (before after : List Char) : Bool :=
  before.head?.any (combiningClass · = virama) ||
    (c == '\u200C' && nextJoins [.left, .dual] before && nextJoins [.right, .dual] after)

def joinersFit (before : List Char) : List Char → Bool
  | [] => true
  | c :: after =>
    ((c ≠ '\u200C' && c ≠ '\u200D') || joins c before after) && joinersFit (c :: before) after

/-! ## Directions -/

def isRightToLeft : Direction → Bool
  | .right | .arabicLetter | .arabicNumber => true
  | _ => false

/-- Signs and marks that may stand inside labels of either direction. -/
def isWeak : Direction → Bool
  | .europeanNumber | .europeanSeparator | .europeanTerminator | .commonSeparator | .boundary
  | .mark | .neutral => true
  | _ => false

/-- Directions of a label in a name with characters from right to left. A label starts with
a letter, all of it fits to the direction of that letter, marks apart it ends in a letter or
number, and it does not mix two kinds of numbers. -/
def keepsDirection : List Direction → Bool
  | [] => true
  | first :: rest =>
    let last := (rest.reverse.dropWhile (· == .mark)).head?
    match first with
    | .left =>
      rest.all (fun d => d == .left || isWeak d) &&
        last.all fun d => d == .left || d == .europeanNumber
    | .right | .arabicLetter =>
      rest.all (fun d => isRightToLeft d || isWeak d) &&
        (last.all fun d => isRightToLeft d || d == .europeanNumber) &&
        !(rest.contains .europeanNumber && rest.contains .arabicNumber)
    | _ => false

/-! ## Labels -/

/-- No name is spelt with more characters than this. -/
def maxSpelling : Nat := 2000

/-- No label beyond ASCII is longer than this. -/
def maxLabel : Nat := 1000

/-- The label that some characters stand for: that which they spell after `xn--`, and
otherwise themselves. -/
def label? : List Char → Option (List Char)
  | 'x' :: 'n' :: '-' :: '-' :: spelling => do
    if maxSpelling < spelling.length then none
    let label ← Punycode.decode? spelling
    if label.all (·.toNat < 128) ∨ normalized? label ≠ some label then none
    return label
  | label => some label

def isWellFormed (label : List Char) : Bool :=
  !label.head?.any isMark && joinersFit [] label &&
    (label.all (·.toNat < 128) || label.length ≤ maxLabel)

/-! ## Names -/

def normal? (name : List Char) : Option (List Char) := do
  let name ← normalized? name
  let labels ← (split '.' name).mapM label?
  let directions := labels.map (·.map Direction.ofChar)
  if name.any forbidden ∨ !labels.all isWellFormed then none
  if directions.any (·.any isRightToLeft) ∧ !directions.all keepsDirection then none
  return name

end TokenBridge.Url.Domain
