import TokenBridge.Json.Number

/-!
# Writing JSON

A `Value` is a complete JSON value whose objects keep their members in order. It is
written in one line without blanks (`compact`) or over indented lines (`pretty`). Only
quotes, backslashes and control characters are escaped.
-/

namespace TokenBridge.Json

inductive Value where
  | null
  | bool (b : Bool)
  | num (n : Number)
  | str (s : String)
  | list (items : List Value)
  | object (members : List (String × Value))

namespace Value

def nat (n : Nat) : Value := num (.int n)

def hexDigit (n : Nat) : Char := Char.ofNat (if n < 10 then 48 + n else 87 + n)

def escape (c : Char) : List Char :=
  if c = '"' then ['\\', '"']
  else if c = '\\' then ['\\', '\\']
  else if c = '\x08' then ['\\', 'b']
  else if c = '\x0c' then ['\\', 'f']
  else if c = '\n' then ['\\', 'n']
  else if c = '\r' then ['\\', 'r']
  else if c = '\t' then ['\\', 't']
  else if c.toNat < 32 then
    ['\\', 'u', '0', '0', hexDigit (c.toNat / 16), hexDigit (c.toNat % 16)]
  else [c]

def quote (s : String) : List Char := '"' :: (s.toList.flatMap escape ++ ['"'])

/-- Parts with a separator between them. -/
def joined (separator : List Char) : List (List Char) → List Char
  | [] => []
  | [part] => part
  | part :: rest => part ++ separator ++ joined separator rest

def literal (b : Bool) : List Char := (if b then "true" else "false").toList

mutual

def compactChars : Value → List Char
  | null => "null".toList
  | bool b => literal b
  | num n => n.text
  | str s => quote s
  | list items => '[' :: (joined [','] (compactItems items) ++ [']'])
  | object members => '\x7b' :: (joined [','] (compactMembers members) ++ ['\x7d'])

def compactItems : List Value → List (List Char)
  | [] => []
  | v :: rest => compactChars v :: compactItems rest

def compactMembers : List (String × Value) → List (List Char)
  | [] => []
  | (k, v) :: rest => (quote k ++ ':' :: compactChars v) :: compactMembers rest

end

/-- A new line with two blanks for each level. -/
def newLine (depth : Nat) : List Char := '\n' :: List.replicate (2 * depth) ' '

/-- Brackets around parts, each on a line of its own; empty brackets stay together. -/
def block (depth : Nat) (start stop : Char) (parts : List (List Char)) : List Char :=
  if parts.isEmpty then [start, stop]
  else
    start :: (newLine (depth + 1) ++ joined (',' :: newLine (depth + 1)) parts ++ newLine depth
      ++ [stop])

mutual

/-- A value at a depth, its first line not indented. -/
def prettyChars : Value → (depth : Nat) → List Char
  | null, _ => "null".toList
  | bool b, _ => literal b
  | num n, _ => n.text
  | str s, _ => quote s
  | list items, depth => block depth '[' ']' (prettyItems items (depth + 1))
  | object members, depth => block depth '\x7b' '\x7d' (prettyMembers members (depth + 1))

def prettyItems : List Value → (depth : Nat) → List (List Char)
  | [], _ => []
  | v :: rest, depth => prettyChars v depth :: prettyItems rest depth

def prettyMembers : List (String × Value) → (depth : Nat) → List (List Char)
  | [], _ => []
  | (k, v) :: rest, depth =>
    (quote k ++ ':' :: ' ' :: prettyChars v depth) :: prettyMembers rest depth

end

def compact (v : Value) : String := String.ofList v.compactChars

def pretty (v : Value) : String := String.ofList (v.prettyChars 0)

end Value

end TokenBridge.Json
