import TokenBridge.Text.Case

/-!
# Lower case of a text

`lower` maps every character by the full case mapping of the character database. One rule
looks beyond the character: a capital sigma at the end of a word (`endsWord`) takes its
final form.
-/

namespace TokenBridge.Text

open Case

/-- The first character that counts is a letter with case. -/
def nextIsCased (cs : List Char) : Bool :=
  (cs.dropWhile caseIgnorable.contains).head?.any cased.contains

/-- A sigma between these characters (the ones before it nearest first) ends a word. -/
def endsWord (before after : List Char) : Bool :=
  nextIsCased before && !nextIsCased after

def lowerChar (c : Char) : List Char :=
  if c.toNat < 128 then [c.toLower] else (lowering.get? c).getD [c]

/-- The lower case of the rest of a text, given what came before, nearest first. -/
def lowerFrom (before : List Char) : List Char → List Char
  | [] => []
  | c :: after =>
    let here := if c = 'Σ' then [if endsWord before after then 'ς' else 'σ'] else lowerChar c
    here ++ lowerFrom (c :: before) after

def lower (text : String) : String := String.ofList (lowerFrom [] text.toList)

/-- Whether one text occurs in another. -/
def occursIn (part whole : List Char) : Bool :=
  match whole with
  | [] => part.isEmpty
  | _ :: rest => part.isPrefixOf whole || occursIn part rest

end TokenBridge.Text
