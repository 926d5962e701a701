import TokenBridge.Json.Decode

/-!
# JSON forms

A `Form` says how values of a type are written as JSON and read from it. A `Record` is
the form of a structure, put together from its fields with `<$>` and `<*>`: written, it
is an object with the fields in their order; read, it may be an object with its members
in any order and others among them, or a list of the fields' values.
-/

namespace TokenBridge.Json

structure Form (α : Type) where
  write : α → Value
  read : Decoder α

namespace Form

def text : Form String := ⟨.str, Decoder.text⟩

def bool : Form Bool := ⟨.bool, Decoder.bool⟩

/-- A value of a type that is another one under a new name. -/
def via {α β : Type} (f : Form α) (into : α → β) (back : β → α) : Form β where
  write b := f.write (back b)
  read room t := into <$> f.read room t

def uint8 : Form UInt8 := ⟨fun n => .nat n.toNat, fun room t =>
  UInt8.ofNat <$> Decoder.natural (UInt8.size - 1) room t⟩

def uint16 : Form UInt16 := ⟨fun n => .nat n.toNat, fun room t =>
  UInt16.ofNat <$> Decoder.natural (UInt16.size - 1) room t⟩

def uint64 : Form UInt64 := ⟨fun n => .nat n.toNat, fun room t =>
  UInt64.ofNat <$> Decoder.natural (UInt64.size - 1) room t⟩

def wide : Form Wide := ⟨fun n => .nat n.toNat, Decoder.wide⟩

/-- A text that stands for a value. -/
def ofText {α : Type} (print : α → String) (parse : String → Option α) : Form α :=
  ⟨fun a => .str (print a), Decoder.textOf parse⟩

def nullable {α : Type} (f : Form α) : Form (Option α) where
  write
    | some a => f.write a
    | none => .null
  read := Decoder.nullable f.read

def list {α : Type} (f : Form α) : Form (List α) where
  write xs := .list (xs.map f.write)
  read := Decoder.list f.read

/-- One of several names. -/
def names {α : Type} (name : α → String) (all : List α) (other : Option α) : Form α where
  write a := .str (name a)
  read := Decoder.oneOf (all.map fun a => .unit (name a) a) other

/-- Any value; objects are written with the order of keys that reading gives them. -/
def any : Form Value := ⟨id, Decoder.any⟩

end Form

/-! ## Records -/

/-- A field as a reader looks for it. -/
structure Field where
  name : String
  read : Decoder Unit
  /-- An object may lack it. -/
  mayLack : Bool
  /-- A list may end before it. -/
  mayEnd : Bool

/-- Fields of a structure `σ` that make up an `α`. -/
structure Record (σ α : Type) where
  fields : List Field
  write : σ → List (String × Value)
  build : (room : Nat) → (String → Option Tree) → Except Problem α

namespace Record

variable {σ α β : Type}

instance : Functor (Record σ) where
  map f r := { r with build := fun room find => f <$> r.build room find }

instance : Applicative (Record σ) where
  pure a := ⟨[], fun _ => [], fun _ _ => .ok a⟩
  seq f x :=
    let x := x ()
    ⟨f.fields ++ x.fields, fun s => f.write s ++ x.write s,
      fun room find => f.build room find <*> x.build room find⟩

/-- A field with a value to use when an object lacks it, and one when a list ends before it. -/
def fieldOr (name : String) (get : σ → α) (form : Form α) (lacking ending : Option α) :
    Record σ α where
  fields := [⟨name, fun room t => discard (form.read room t), lacking.isSome, ending.isSome⟩]
  write s := [(name, form.write (get s))]
  build room find :=
    match find name with
    | some t => form.read room t
    | none =>
      match lacking <|> ending with
      | some a => .ok a
      | none => .error .wrongShape

def field (name : String) (get : σ → α) (form : Form α) : Record σ α :=
  fieldOr name get form none none

/-- A field that may be absent or null; in a list it has to be there. -/
def optional (name : String) (get : σ → Option α) (form : Form α) : Record σ (Option α) :=
  fieldOr name get form.nullable (some none) none

/-- A field with a default. -/
def withDefault (name : String) (get : σ → α) (form : Form α) (a : α) : Record σ α :=
  fieldOr name get form (some a) (some a)

/-- The trees of the fields among members; no field occurs twice. -/
def fieldTrees (fields : List Field) (room : Nat) (found : List (String × Tree)) :
    List (Quoted × Tree) → Except Problem (List (String × Tree))
  | [] => .ok found
  | (q, t) :: rest => do
    let name ← q.read
    match fields.find? (·.name == name) with
    | none =>
      skip t
      fieldTrees fields room found rest
    | some f =>
      if found.any (·.1 == name) then throw .wrongShape
      f.read room t
      fieldTrees fields room ((name, t) :: found) rest

/-- The trees of the fields in a list, in their order. -/
def itemTrees (room : Nat) (ending : Ending) :
    List Field → List Tree → Except Problem (List (String × Tree))
  | [], [] => do
    ending.check
    return []
  | [], _ :: _ => .error .notJson
  | f :: fields, [] => do
    ending.check
    if f.mayEnd then itemTrees room ending fields [] else throw .wrongShape
  | f :: fields, t :: rest => do
    f.read room t
    return (f.name, t) :: (← itemTrees room ending fields rest)

def lookUp (found : List (String × Tree)) (name : String) : Option Tree :=
  (found.find? (·.1 == name)).map (·.2)

/-- Every field is there that has to be. -/
def checkAll (fields : List Field) (found : List (String × Tree)) : Except Problem Unit :=
  if fields.all fun f => f.mayLack || (lookUp found f.name).isSome then .ok ()
  else .error .wrongShape

def read (r : Record σ α) : Decoder α := fun room t =>
  match t with
  | .object members ending =>
    match room with
    | 0 => .error .notJson
    | room + 1 => do
      let found ← fieldTrees r.fields room [] members
      ending.check
      checkAll r.fields found
      r.build room (lookUp found)
  | .list items ending =>
    match room with
    | 0 => .error .notJson
    | room + 1 => do
      let found ← itemTrees room ending r.fields items
      r.build room (lookUp found)
  | _ => .error (mismatch t)

/-- The form of a structure from its fields. -/
def form (r : Record α α) : Form α := ⟨fun a => .object (r.write a), r.read⟩

end Record

end TokenBridge.Json
