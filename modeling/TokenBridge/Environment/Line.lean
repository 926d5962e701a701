import TokenBridge.Text.Blank
import TokenBridge.Text.Split

/-!
# Lines of a settings file

An entry of a settings file ends with its line unless a quote is open there. `entries`
joins lines accordingly and leaves out comments: lines that start with `#`, and what
follows a `#` after a blank. A file that ends inside an entry ends in a `LineFault`.
-/

namespace TokenBridge.Environment

/-- An entry that cannot be read, and where in it the trouble lies. -/
structure LineFault where
  line : String
  position : Nat
  deriving DecidableEq, Repr

def LineFault.message (f : LineFault) : String :=
  s!"Error parsing line: \x27{f.line}\x27, error at line index: {f.position}"

/-- The size of a text in bytes. -/
def size (cs : List Char) : Nat := (String.ofList cs).utf8ByteSize

/-- What a character may mean at some place. -/
inductive Scan where
  | plain
  | blank
  | escaped
  | quoted (mark : Char)
  | quotedEscaped (mark : Char)
  deriving DecidableEq, Repr

namespace Scan

/-- After a character with no open quote. -/
def afterBare (c : Char) : Scan :=
  if c = '\\' then escaped else if c = '"' ∨ c = '\x27' then quoted c else plain

/-- The next state; a comment has none. -/
def next? (s : Scan) (c : Char) : Option Scan :=
  match s with
  | plain => some (if Text.isBlank c ∧ c ≠ '\n' ∧ c ≠ '\r' then blank else afterBare c)
  | blank => if c = '#' then none else some (afterBare c)
  | escaped => some plain
  | quoted mark =>
    some (if c = '\\' then quotedEscaped mark else if c = mark then plain else s)
  | quotedEscaped mark => some (quoted mark)

/-- The part of a line before a comment, and the state after the line if there is none. -/
def line (s : Scan) : List Char → List Char × Option Scan
  | [] => ([], some s)
  | c :: cs =>
    match s.next? c with
    | none => ([], none)
    | some t => ((c :: (t.line cs).1), (t.line cs).2)

end Scan

/-- The lines of a text, each with its end. -/
def physicalLines (cs : List Char) : List (List Char) :=
  let parts := Text.split '\n' cs
  let ended := parts.dropLast.map (· ++ ['\n'])
  match parts.getLast? with
  | some [] | none => ended
  | some last => ended ++ [last]

/-- A line without its end. -/
def chomp (line : List Char) : List Char :=
  match line.reverse with
  | '\n' :: '\r' :: rest | '\n' :: rest => rest.reverse
  | _ => line

def isComment (line : List Char) : Bool := (Text.trimStart line).head? = some '#'

/-- The entries in some lines after an entry that is still open. -/
def entriesAfter (pending : List Char) (s : Scan) :
    List (List Char) → List (Except LineFault (List Char))
  | [] => if s = .plain then [] else [.error ⟨String.ofList pending, size pending⟩]
  | l :: ls =>
    if isComment (pending ++ l) then entriesAfter [] .plain ls
    else
      match s.line l with
      | (kept, none) => .ok (pending ++ kept) :: entriesAfter [] .plain ls
      | (_, some .plain) => .ok (chomp (pending ++ l)) :: entriesAfter [] .plain ls
      | (_, some t) => entriesAfter (pending ++ l) t ls

def entries (text : String) : List (Except LineFault (List Char)) :=
  match text.toList with
  | '\uFEFF' :: cs => entriesAfter [] .plain (physicalLines cs)
  | cs => entriesAfter [] .plain (physicalLines cs)

end TokenBridge.Environment
