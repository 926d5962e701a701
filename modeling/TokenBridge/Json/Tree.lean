import TokenBridge.Json.Token

/-!
# JSON as far as it goes

A `Tree` is a JSON value of a text that may break off or go wrong anywhere: it holds all
that can be read up to that place and the problem there, so that a reader who goes from
left to right meets the first problem of any kind. `Document.ofText` builds the tree of a
text from its tokens; a `Context` is what surrounds the place it has reached.
-/

namespace TokenBridge.Json

/-- How a list or an object ends. -/
inductive Ending where
  | closed
  /-- With a problem; `variant` is what a reader finds that wants an object of one member. -/
  | cut (fault : Fault) (variant : Problem)
  deriving DecidableEq, Repr

inductive Tree where
  | null
  | bool (b : Bool)
  | num (n : Numeral)
  | str (q : Quoted)
  | list (items : List Tree) (ending : Ending)
  | object (members : List (Quoted × Tree)) (ending : Ending)
  /-- The text ends where a value should be. -/
  | missing
  /-- Something that is no value and starts with this character. -/
  | broken (start : Char) (fault : Fault)

structure Document where
  root : Tree
  /-- There is more after the root. -/
  trailing : Bool

/-- An open list or object around a value, with what comes before it, newest first. -/
inductive Frame where
  | item (before : List Tree)
  | member (before : List (Quoted × Tree)) (key : Quoted)

abbrev Context := List Frame

/-- What may come next. -/
inductive Expected where
  | value
  | firstItem
  | afterItem (items : List Tree)
  | firstKey
  | nextKey (members : List (Quoted × Tree))
  | colon (members : List (Quoted × Tree)) (key : Quoted)
  | afterMember (members : List (Quoted × Tree))

namespace Ending

def endsEarly : Ending := cut (.both .endsEarly) .endsEarly

def notJson : Ending := cut (.both .notJson) .notJson

end Ending

/-- Closes everything around a tree that cannot be continued. -/
def abandon (t : Tree) : Context → Tree
  | [] => t
  | .item before :: around => abandon (.list (t :: before).reverse .endsEarly) around
  | .member before key :: around =>
    abandon (.object ((key, t) :: before).reverse .endsEarly) around

/-- The tree of a text that ends here. -/
def Expected.atEnd : Expected → Tree
  | value => .missing
  | firstItem => .list [] .endsEarly
  | afterItem items => .list items.reverse .endsEarly
  | firstKey => .object [] .endsEarly
  | nextKey members => .object members.reverse (.cut (.both .endsEarly) .notJson)
  | colon members key => .object ((key, .missing) :: members).reverse .endsEarly
  | afterMember members => .object members.reverse .endsEarly

/-- Either reading goes on with what is expected there, or it is over. -/
inductive Progress where
  | go (around : Context) (next : Expected)
  | root (t : Tree)
  | stop (t : Tree)

namespace Progress

/-- After a complete value. -/
def complete (t : Tree) : Context → Progress
  | [] => root t
  | .item before :: around => go around (.afterItem (t :: before))
  | .member before key :: around => go around (.afterMember ((key, t) :: before))

/-- After a token where a value should be. -/
def value (around : Context) : Token → Progress
  | .null => complete .null around
  | .bool b => complete (.bool b) around
  | .num n => complete (.num n) around
  | .str q => complete (.str q) around
  | .openList => go around .firstItem
  | .openObject => go around .firstKey
  | .broken start fault => stop (abandon (.broken start fault) around)
  | .closeList => stop (abandon (.broken ']' (.both .notJson)) around)
  | .closeObject => stop (abandon (.broken '\x7d' (.both .notJson)) around)
  | .comma => stop (abandon (.broken ',' (.both .notJson)) around)
  | .colon => stop (abandon (.broken ':' (.both .notJson)) around)

/-- What is wrong with a token where a key should be. -/
def keyFault : Token → Fault
  | .broken '"' fault => fault
  | _ => .both .notJson

/-- After a token where a first key should be. -/
def firstKey (around : Context) : Token → Progress
  | .str q => go around (.colon [] q)
  | t => stop (abandon (.object [] (.cut (keyFault t) (keyFault t).read)) around)

/-- After a token where another key should be. -/
def nextKey (around : Context) (members : List (Quoted × Tree)) : Token → Progress
  | .str q => go around (.colon members q)
  | t => stop (abandon (.object members.reverse (.cut (keyFault t) .notJson)) around)

end Progress

def Expected.step (around : Context) (t : Token) : Expected → Progress
  | value => .value around t
  | firstItem =>
    if t = .closeList then .complete (.list [] .closed) around
    else .value (.item [] :: around) t
  | afterItem items =>
    match t with
    | .comma => .go (.item items :: around) .value
    | .closeList => .complete (.list items.reverse .closed) around
    | _ => .stop (abandon (.list items.reverse .notJson) around)
  | firstKey =>
    if t = .closeObject then .complete (.object [] .closed) around else .firstKey around t
  | nextKey members => .nextKey around members t
  | colon members key =>
    if t = .colon then .go (.member members key :: around) .value
    else .stop (abandon (.object ((key, .broken ':' (.both .notJson)) :: members).reverse .notJson)
      around)
  | afterMember members =>
    match t with
    | .comma => .go around (.nextKey members)
    | .closeObject => .complete (.object members.reverse .closed) around
    | _ => .stop (abandon (.object members.reverse .notJson) around)

namespace Document

def ofTokens (around : Context) (next : Expected) : List Token → Document
  | [] => ⟨abandon next.atEnd around, false⟩
  | t :: rest =>
    match next.step around t with
    | .go around next => ofTokens around next rest
    | .root tree => ⟨tree, !rest.isEmpty⟩
    | .stop tree => ⟨tree, false⟩

def ofText (text : String) : Document := ofTokens [] .value (Token.ofText text)

end Document

end TokenBridge.Json
