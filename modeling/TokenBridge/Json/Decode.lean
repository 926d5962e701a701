import TokenBridge.Json.Tree
import TokenBridge.Json.Value
import TokenBridge.Word

/-!
# Reading values from trees

A `Decoder` reads a value of one kind from a tree, from left to right, and reports the
first problem. It is told how many more levels of lists and objects it may enter; a
value that is only passed over (`skip`) may nest deeper.
-/

namespace TokenBridge.Json

/-- Reads with room for that many more levels. -/
abbrev Decoder (α : Type) := (room : Nat) → Tree → Except Problem α

/-- No list or object is entered below this many others. -/
def maxDepth : Nat := 127

/-- What is wrong with a tree for a reader of another kind of value. -/
def mismatch : Tree → Problem
  | .missing => .endsEarly
  | .broken _ fault => fault.read
  | .num n => match n.read with
    | .ok _ => .wrongShape
    | .error p => p
  | .str q => match q.read with
    | .ok _ => .wrongShape
    | .error p => p
  | _ => .wrongShape

namespace Ending

def check : Ending → Except Problem Unit
  | closed => .ok ()
  | cut fault _ => .error fault.read

def skip : Ending → Except Problem Unit
  | closed => .ok ()
  | cut fault _ => .error fault.skip

end Ending

/-! ## Values of any kind -/

mutual

/-- Passes over a value. -/
def skip : Tree → Except Problem Unit
  | .missing => .error .endsEarly
  | .broken _ fault => .error fault.skip
  | .list items ending => do
    skipItems items
    ending.skip
  | .object members ending => do
    skipMembers members
    ending.skip
  | .null | .bool _ | .num _ | .str _ => .ok ()

def skipItems : List Tree → Except Problem Unit
  | [] => .ok ()
  | t :: rest => do
    skip t
    skipItems rest

def skipMembers : List (Quoted × Tree) → Except Problem Unit
  | [] => .ok ()
  | (_, t) :: rest => do
    skip t
    skipMembers rest

end

/-- Puts a member into its place in the order of keys; a key that is there is replaced. -/
def putMember (key : String) (v : Value) : List (String × Value) → List (String × Value)
  | [] => [(key, v)]
  | (k, w) :: rest =>
    if key < k then (key, v) :: (k, w) :: rest
    else if key = k then (key, v) :: rest
    else (k, w) :: putMember key v rest

mutual

/-- Any value, with the members of objects in the order of their keys. -/
def readAny : Tree → (room : Nat) → Except Problem Value
  | .missing, _ => .error .endsEarly
  | .broken _ fault, _ => .error fault.read
  | .null, _ => .ok .null
  | .bool b, _ => .ok (.bool b)
  | .num n, _ => .num <$> n.read
  | .str q, _ => .str <$> q.read
  | .list items ending, room =>
    match room with
    | 0 => .error .notJson
    | room + 1 => do
      let items ← readAnyItems items room
      ending.check
      return .list items
  | .object members ending, room =>
    match room with
    | 0 => .error .notJson
    | room + 1 => do
      let members ← readAnyMembers members room []
      ending.check
      return .object members

def readAnyItems : List Tree → (room : Nat) → Except Problem (List Value)
  | [], _ => .ok []
  | t :: rest, room => do
    let v ← readAny t room
    return v :: (← readAnyItems rest room)

def readAnyMembers : List (Quoted × Tree) → (room : Nat) → List (String × Value) →
    Except Problem (List (String × Value))
  | [], _, done => .ok done
  | (q, t) :: rest, room, done => do
    let key ← q.read
    let v ← readAny t room
    readAnyMembers rest room (putMember key v done)

end

namespace Decoder

def any : Decoder Value := fun room t => readAny t room

/-! ## Single values -/

def bool : Decoder Bool := fun _ t =>
  match t with
  | .bool b => .ok b
  | _ => .error (mismatch t)

/-- An integer from zero to a bound that a 64-bit word holds. -/
def natural (bound : Nat) : Decoder Nat := fun _ t =>
  match t with
  | .num n => do
    match ← n.read with
    | .int k => if 0 ≤ k ∧ k ≤ bound then return k.toNat else throw .wrongShape
    | .real _ => throw .wrongShape
  | _ => .error (mismatch t)

/-- A plain integer of 128 bits. Anything else that is there is no JSON to this reader. -/
def wide : Decoder Wide := fun _ t =>
  match t with
  | .num n =>
    match n.natural? with
    | some k => if k < Wide.size then .ok (BitVec.ofNat 128 k) else .error .notJson
    | none => .error .notJson
  | .missing => .error .endsEarly
  | _ => .error .notJson

def text : Decoder String := fun _ t =>
  match t with
  | .str q => q.read
  | _ => .error (mismatch t)

/-- A text that has to stand for something. -/
def textOf {α : Type} (parse : String → Option α) : Decoder α := fun room t => do
  match parse (← text room t) with
  | some a => return a
  | none => throw .wrongShape

/-- A value or null. -/
def nullable {α : Type} (d : Decoder α) : Decoder (Option α) := fun room t =>
  match t with
  | .null => .ok none
  | .broken 'n' fault => .error fault.read
  | _ => some <$> d room t

/-! ## Lists -/

def list {α : Type} (d : Decoder α) : Decoder (List α) := fun room t =>
  match t with
  | .list items ending =>
    match room with
    | 0 => .error .notJson
    | room + 1 => do
      let xs ← items.mapM (d room)
      ending.check
      return xs
  | _ => .error (mismatch t)

/-- A list of exactly `n` items; more items are no JSON to this reader. -/
def exactly {α : Type} (n : Nat) (d : Decoder α) : Decoder { xs : List α // xs.length = n } :=
  fun room t =>
    match t with
    | .list items ending =>
      match room with
      | 0 => .error .notJson
      | room + 1 => do
        let xs ← (items.take n).mapM (d room)
        if h : xs.length = n then
          if n < items.length then throw .notJson
          ending.check
          return ⟨xs, h⟩
        else
          ending.check
          throw .wrongShape
    | _ => .error (mismatch t)

/-! ## Objects of named members -/

/-- The members of an object in their order. -/
def members {α : Type} (d : Decoder α) : Decoder (List (String × α)) := fun room t =>
  match t with
  | .object ms ending =>
    match room with
    | 0 => .error .notJson
    | room + 1 => do
      let read (m : Quoted × Tree) : Except Problem (String × α) := do
        let key ← m.1.read
        return (key, ← d room m.2)
      let xs ← ms.mapM read
      ending.check
      return xs
  | _ => .error (mismatch t)

/-! ## Variants -/

/-- One of several alternatives: its name, and its value from what belongs to it. A plain
text names a variant and brings nothing. -/
structure Variant (α : Type) where
  name : String
  read : Nat → Option Tree → Except Problem α

/-- A variant to which nothing, or null, belongs. -/
def Variant.unit {α : Type} (name : String) (a : α) : Variant α where
  name
  read _ t :=
    match t with
    | none | some .null => .ok a
    | some t => .error (mismatch t)

def Variant.carrying {α β : Type} (name : String) (d : Decoder β) (f : β → α) : Variant α where
  name
  read room t :=
    match t with
    | none => .error .wrongShape
    | some t => f <$> d room t

/-- The variant of a name, or the one for all other names. -/
def findVariant {α : Type} (variants : List (Variant α)) (other : Option α) (name : String) :
    Except Problem (Variant α) :=
  match variants.find? (·.name == name), other with
  | some v, _ => .ok v
  | none, some a => .ok (.unit name a)
  | none, none => .error .wrongShape

/-- The end of an object that has its one member. -/
def checkOnly (rest : List (Quoted × Tree)) (ending : Ending) : Except Problem Unit :=
  match rest, ending with
  | [], .closed => .ok ()
  | [], .cut _ variant => .error variant
  | _ :: _, _ => .error .notJson

/-- A variant, written as its name or as an object with its name and what belongs to it. -/
def oneOf {α : Type} (variants : List (Variant α)) (other : Option α) : Decoder α := fun room t =>
  match t with
  | .str q => do (← findVariant variants other (← q.read)).read room none
  | .object ms ending =>
    match room, ms with
    | 0, _ => .error .notJson
    | _ + 1, [] =>
      match ending with
      | .closed => .error .notJson
      | .cut _ variant => .error variant
    | room + 1, (q, t) :: rest => do
      let v ← findVariant variants other (← q.read)
      let a ← v.read room (some t)
      checkOnly rest ending
      return a
  | .missing => .error .endsEarly
  | .broken '"' fault => .error fault.read
  | _ => .error .notJson

/-! ## Tagged objects -/

/-- The value of a tag among known ones. -/
def tagOf (known : List String) (room : Nat) (t : Tree) : Except Problem String := do
  let name ← text room t
  if known.contains name then return name else throw .wrongShape

/-- The tag of an object and its other members, each of which is read to its end. -/
def splitMembers (tag : String) (known : List String) (room : Nat) :
    Option String → List (Quoted × Tree) → Except Problem (Option String × List (Quoted × Tree))
  | found, [] => .ok (found, [])
  | found, (q, t) :: rest => do
    let key ← q.read
    if key = tag then
      if found.isSome then throw .wrongShape
      splitMembers tag known room (some (← tagOf known room t)) rest
    else
      discard <| readAny t room
      let (found, others) ← splitMembers tag known room found rest
      return (found, (q, t) :: others)

/-- The tag of an object, or of a list that begins with it, and the object or list without
the tag. Everything is read before any of the rest is looked at. -/
def tagged (tag : String) (known : List String) : Decoder (String × Tree) := fun room t =>
  match t with
  | .object ms ending =>
    match room with
    | 0 => .error .notJson
    | room + 1 => do
      let (found, others) ← splitMembers tag known room none ms
      ending.check
      match found with
      | some name => return (name, .object others .closed)
      | none => throw .wrongShape
  | .list items ending =>
    match room, items with
    | 0, _ => .error .notJson
    | _ + 1, [] => do
      ending.check
      throw .wrongShape
    | room + 1, first :: rest => do
      let name ← tagOf known room first
      discard <| readAnyItems rest room
      ending.check
      return (name, .list rest .closed)
  | _ => .error (mismatch t)

/-- The value of a whole text. -/
def ofText {α : Type} (d : Decoder α) (s : String) : Except Problem α := do
  let doc := Document.ofText s
  let a ← d maxDepth doc.root
  if doc.trailing then throw .notJson
  return a

end Decoder

end TokenBridge.Json
