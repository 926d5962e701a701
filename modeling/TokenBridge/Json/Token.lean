import TokenBridge.Json.Number

/-!
# Tokens of JSON

`Token.ofText` cuts a text into tokens. It stops at the first piece that is no token,
which it keeps as `broken` with what is wrong. Two kinds of reader meet such a piece: one
that wants its value and one that passes over it, and a `Fault` says what each of them
finds. Text in quotes is cut into `Piece`s first; only a reader that wants the text minds
an escaped code unit that is half of a character.
-/

namespace TokenBridge.Json

/-- What is wrong with a place in the text, for a reader of its value and for one that
passes over it. -/
structure Fault where
  read : Problem
  skip : Problem
  deriving DecidableEq, Repr

def Fault.both (p : Problem) : Fault := ⟨p, p⟩

/-- A part of a quoted text: a character, or an escaped code unit of 16 bits. -/
inductive Piece where
  | char (c : Char)
  | unit (n : Nat)
  deriving DecidableEq, Repr

/-- A quoted text; there is none if a code unit in it stands for no character. -/
structure Quoted where
  text? : Option String
  deriving DecidableEq, Repr

def Quoted.read (q : Quoted) : Except Problem String :=
  match q.text? with
  | some s => .ok s
  | none => .error .notJson

inductive Token where
  | openList
  | closeList
  | openObject
  | closeObject
  | comma
  | colon
  | null
  | bool (b : Bool)
  | num (n : Numeral)
  | str (q : Quoted)
  /-- No token; `start` is its first character. -/
  | broken (start : Char) (fault : Fault)
  deriving DecidableEq, Repr

/-! ## Quoted text -/

namespace Piece

def isHigh (n : Nat) : Bool := 0xD800 ≤ n && n ≤ 0xDBFF

def isLow (n : Nat) : Bool := 0xDC00 ≤ n && n ≤ 0xDFFF

/-- Appends the characters of pieces to those of `before`, newest first, if every code unit
is a character or half of one. -/
def joinAfter (before : List Char) : List Piece → Option (List Char)
  | [] => some before.reverse
  | char c :: rest => joinAfter (c :: before) rest
  | unit n :: rest =>
    if isLow n then none
    else if isHigh n then
      match rest with
      | unit m :: rest =>
        if isLow m then
          joinAfter (Char.ofNat (0x10000 + (n - 0xD800) * 0x400 + (m - 0xDC00)) :: before) rest
        else none
      | _ => none
    else joinAfter (Char.ofNat n :: before) rest

def join? (pieces : List Piece) : Option (List Char) := joinAfter [] pieces

/-- The pieces without a first half of a character at their end. -/
def settled (pieces : List Piece) : List Piece :=
  match pieces.reverse with
  | unit n :: before => if isHigh n then before.reverse else pieces
  | _ => pieces

end Piece

def hexValue? (c : Char) : Option Nat :=
  if '0' ≤ c ∧ c ≤ '9' then some (c.toNat - 48)
  else if 'a' ≤ c ∧ c ≤ 'f' then some (c.toNat - 87)
  else if 'A' ≤ c ∧ c ≤ 'F' then some (c.toNat - 55)
  else none

def codeUnit? (a b c d : Char) : Option Nat := do
  return (((← hexValue? a) * 16 + (← hexValue? b)) * 16 + (← hexValue? c)) * 16 + (← hexValue? d)

def unescape? : Char → Option Char
  | '"' => some '"'
  | '\\' => some '\\'
  | '/' => some '/'
  | 'b' => some '\x08'
  | 'f' => some '\x0c'
  | 'n' => some '\n'
  | 'r' => some '\r'
  | 't' => some '\t'
  | _ => none

/-- Pieces, and what follows the closing quote or why there is none. -/
abbrev Cut := List Piece × Except Problem (List Char)

/-- Cuts text behind an opening quote; `before` holds the pieces so far, newest first. -/
def cutQuoted (before : List Piece) : List Char → Cut
  | [] => (before.reverse, .error .endsEarly)
  | '"' :: rest => (before.reverse, .ok rest)
  | '\\' :: 'u' :: a :: b :: c :: d :: rest =>
    match codeUnit? a b c d with
    | some n => cutQuoted (.unit n :: before) rest
    | none => (before.reverse, .error .notJson)
  | '\\' :: 'u' :: rest =>
    let short := (String.ofList rest).utf8ByteSize < 4
    (before.reverse, .error (if short then .endsEarly else .notJson))
  | '\\' :: c :: rest =>
    match unescape? c with
    | some c => cutQuoted (.char c :: before) rest
    | none => (before.reverse, .error .notJson)
  | ['\\'] => (before.reverse, .error .endsEarly)
  | c :: rest =>
    if c.toNat < 32 then (before.reverse, .error .notJson)
    else cutQuoted (.char c :: before) rest

def quotedToken (cs : List Char) : Token × List Char :=
  match cutQuoted [] cs with
  | (pieces, .ok rest) => (.str ⟨String.ofList <$> Piece.join? pieces⟩, rest)
  | (pieces, .error p) =>
    let read := if (Piece.join? (Piece.settled pieces)).isNone then .notJson else p
    (.broken '"' ⟨read, p⟩, [])

/-! ## Numbers and words -/

/-- A digit is missing here. -/
def digitFault (rest : List Char) : Fault :=
  ⟨if rest.isEmpty then .endsEarly else .notJson, .notJson⟩

def splitDigits (cs : List Char) : List Char × List Char :=
  (cs.takeWhile Decimal.Real.isDigit, cs.dropWhile Decimal.Real.isDigit)

/-- At least one digit. -/
def someDigits (cs : List Char) : Except Fault (List Char × List Char) :=
  let (digits, rest) := splitDigits cs
  if digits.isEmpty then .error (digitFault rest) else .ok (digits, rest)

/-- Digits that start with zero only if that is all. -/
def wholePart (cs : List Char) : Except Fault (List Char × List Char) := do
  let (digits, rest) ← someDigits cs
  match digits with
  | '0' :: _ :: _ => throw (.both .notJson)
  | _ => return (digits, rest)

def fractionPart (cs : List Char) : Except Fault (List Char × List Char) :=
  match cs with
  | '.' :: rest => someDigits rest
  | _ => .ok ([], cs)

def exponentSign (cs : List Char) : Bool × List Char :=
  match cs with
  | '-' :: rest => (true, rest)
  | '+' :: rest => (false, rest)
  | _ => (false, cs)

def exponentPart (cs : List Char) : Except Fault (Option (Bool × List Char) × List Char) :=
  match cs with
  | c :: rest =>
    if c == 'e' || c == 'E' then do
      let (down, rest) := exponentSign rest
      let (digits, rest) ← someDigits rest
      return (some (down, digits), rest)
    else .ok (none, cs)
  | [] => .ok (none, cs)

def cutNumeral (cs : List Char) : Except Fault (Numeral × List Char) := do
  let (negative, rest) :=
    match cs with
    | '-' :: rest => (true, rest)
    | _ => (false, cs)
  let (whole, rest) ← wholePart rest
  let (fraction, rest) ← fractionPart rest
  let (exponent, rest) ← exponentPart rest
  return (⟨negative, whole, fraction, exponent⟩, rest)

def numberToken (start : Char) (rest : List Char) : Token × List Char :=
  match cutNumeral (start :: rest) with
  | .ok (n, rest) => (.num n, rest)
  | .error fault => (.broken start fault, [])

/-- What follows the rest of a word. -/
def restOf : (word cs : List Char) → Except Problem (List Char)
  | [], cs => .ok cs
  | _ :: _, [] => .error .endsEarly
  | w :: word, c :: cs => if w = c then restOf word cs else .error .notJson

def wordToken (start : Char) (word : List Char) (t : Token) (rest : List Char) :
    Token × List Char :=
  match restOf word rest with
  | .ok rest => (t, rest)
  | .error p => (.broken start (.both p), [])

/-! ## The whole text -/

def isSpace (c : Char) : Bool := c == ' ' || c == '\n' || c == '\t' || c == '\r'

/-- The token that starts with a character, and what follows it. -/
def nextToken (start : Char) (rest : List Char) : Token × List Char :=
  match start with
  | '[' => (.openList, rest)
  | ']' => (.closeList, rest)
  | '\x7b' => (.openObject, rest)
  | '\x7d' => (.closeObject, rest)
  | ',' => (.comma, rest)
  | ':' => (.colon, rest)
  | '"' => quotedToken rest
  | 'n' => wordToken start ['u', 'l', 'l'] .null rest
  | 't' => wordToken start ['r', 'u', 'e'] (.bool true) rest
  | 'f' => wordToken start ['a', 'l', 's', 'e'] (.bool false) rest
  | _ =>
    if start == '-' || Decimal.Real.isDigit start then numberToken start rest
    else (.broken start (.both .notJson), [])

/-- At most `most` tokens. -/
def tokensFor : (most : Nat) → List Char → List Token
  | 0, _ => []
  | most + 1, cs =>
    match cs.dropWhile isSpace with
    | [] => []
    | start :: rest =>
      let (t, rest) := nextToken start rest
      t :: tokensFor most rest

/-- The tokens of a text, each at least one character long. -/
def Token.ofText (text : String) : List Token :=
  let cs := text.toList
  tokensFor cs.length cs

end TokenBridge.Json
