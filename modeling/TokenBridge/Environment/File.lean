import TokenBridge.Environment
import TokenBridge.Environment.Line
import TokenBridge.Text.Alphanumeric

/-!
# Settings files

An entry is `NAME=value` with an optional `export` before it. A value may be quoted: inside
single quotes all characters stand for themselves, elsewhere a backslash quotes the next
character and `$NAME` or `${NAME}` stands for the value of another variable. `load` adds
the entries of a file to an environment one after the other, so an entry may use the ones
before it; the first entry that cannot be read is the answer.
-/

namespace TokenBridge.Environment

/-! ## Values -/

/-- How the next character of a value is read, inside double quotes if `weak`. -/
inductive Mode where
  | bare (weak : Bool)
  | strong
  | escaped (weak : Bool)
  /-- In a name without braces, whose characters are kept last first. -/
  | name (weak : Bool) (taken : List Char)
  | braced (weak : Bool) (taken : List Char)
  /-- After a blank, where only a comment may follow. -/
  | ended
  deriving DecidableEq, Repr

/-- The value of a variable, empty if it has none, from its name with the last character first. -/
def expand (env : Environment) (taken : List Char) : List Char :=
  ((env.get? (String.ofList taken.reverse)).getD "").toList

/-- What an escaped character stands for. -/
def unescape? (c : Char) : Option Char :=
  if c = 'n' then some '\n'
  else if c = '\\' ∨ c = '\x27' ∨ c = '"' ∨ c = '$' ∨ c = ' ' then some c
  else none

/-- The mode after a character outside single quotes, names and escapes, and what it adds. -/
def Mode.afterBare (weak : Bool) (c : Char) : Mode × List Char :=
  if c = '$' then (.name weak [], [])
  else if c = '\\' then (.escaped weak, [])
  else if c = '"' then (.bare (!weak), [])
  else if weak then (.bare true, [c])
  else if c = '\x27' then (.strong, [])
  else if c = ' ' ∨ c = '\t' then (.ended, [])
  else (.bare false, [c])

/-- The mode after a character and what it adds to the value, unless it must not stand here. -/
def Mode.next? (env : Environment) (m : Mode) (c : Char) : Option (Mode × List Char) :=
  match m with
  | bare weak => some (afterBare weak c)
  | strong => some (if c = '\x27' then (bare false, []) else (strong, [c]))
  | escaped weak => (unescape? c).map fun d => (bare weak, [d])
  | name weak taken =>
    some <|
      if Text.isAlphanumeric c then (name weak (c :: taken), [])
      else if c = '\x7b' ∧ taken.isEmpty then (braced weak [], [])
      else if c = '$' then (name weak [], expand env taken)
      else (bare weak, expand env taken ++ [c])
  | braced weak taken =>
    some (if c = '\x7d' then (bare weak, expand env taken) else (braced weak (c :: taken), []))
  | ended => if c = ' ' ∨ c = '\t' then some (ended, []) else none

/-- What the end of the text adds to a value, unless a quote or brace is open. -/
def Mode.finish? (env : Environment) : Mode → Option (List Char)
  | bare false | escaped false | ended => some []
  | name false taken => some (expand env taken)
  | _ => none

/-- The rest of a value from the character at `index`. A value with an open quote or brace
is at fault at its last byte. -/
def valueFrom (env : Environment) (whole : List Char) (index : Nat) (m : Mode) :
    List Char → Except LineFault (List Char)
  | [] =>
    match m.finish? env with
    | some added => .ok added
    | none => .error ⟨String.ofList whole, size whole - 1⟩
  | c :: cs =>
    if m = .ended ∧ c = '#' then .ok []
    else
      match m.next? env c with
      | none => .error ⟨String.ofList whole, index⟩
      | some (n, added) => (added ++ ·) <$> valueFrom env whole (index + 1) n cs

/-! ## Entries -/

def isNameStart (c : Char) : Bool := c.isAlpha || c == '_'

def isNameChar (c : Char) : Bool := c.isAlphanum || c == '_' || c == '.'

/-- A name and the text after it and the blanks that follow. -/
def name? : List Char → Option (String × List Char)
  | [] => none
  | c :: cs =>
    if isNameStart c then
      some (String.ofList (c :: cs.takeWhile isNameChar), Text.trimStart (cs.dropWhile isNameChar))
    else none

/-- A name up to its equals sign and the text of the value; a text that does not start with
them is at fault where it goes wrong. -/
def assignment (cs : List Char) : Except (List Char) (String × List Char) :=
  match name? cs with
  | none => .error cs
  | some (name, '=' :: rest) => .ok (name, Text.trimStart rest)
  | some (name, rest) =>
    if name ≠ "export" then .error rest
    else
      match name? rest with
      | none => .error rest
      | some (name, '=' :: rest) => .ok (name, Text.trimStart rest)
      | some (_, rest) => .error rest

/-- The name and value of an entry, or nothing if it is blank. -/
def entry (env : Environment) (line : List Char) : Except LineFault (Option (String × String)) :=
  let body := Text.trimStart (Text.trimEnd line)
  if body.isEmpty || body.head? = some '#' then .ok none
  else
    match assignment body with
    | .error rest => .error ⟨String.ofList line, size (Text.trimEnd line) - size rest⟩
    | .ok (name, value) =>
      if value.isEmpty || value.head? = some '#' then .ok (some (name, ""))
      else (fun v => some (name, String.ofList v)) <$> valueFrom env value 0 (.bare false) value

def loadLine (env : Environment) (line : Except LineFault (List Char)) :
    Except LineFault Environment := do
  match ← entry env (← line) with
  | some (name, value) => return env.offer name value
  | none => return env

/-- The environment with the entries of a file for variables that it does not set. -/
def load (env : Environment) (text : String) : Except LineFault Environment :=
  (entries text).foldlM loadLine env

/-- The names that a text may refer to. -/
def mentioned : List Char → List String
  | [] => []
  | '$' :: '\x7b' :: rest => String.ofList (rest.takeWhile (· ≠ '\x7d')) :: mentioned rest
  | '$' :: rest => String.ofList (rest.takeWhile Text.isAlphanumeric) :: mentioned rest
  | _ :: rest => mentioned rest

end TokenBridge.Environment
