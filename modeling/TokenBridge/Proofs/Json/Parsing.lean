import TokenBridge.Json.Tree
import TokenBridge.Proofs.Json.Lexing

/-!
# Trees of written JSON

The tree of a written value is the value with every list and object closed (`Value.tree`), and
nothing comes after it (`ofText_compact`). The tokens of a value bring a reader from any place where
a value should be to the place behind it, whatever surrounds it. The loops behind the items of a
list and the members of an object are inductions on what is left of them.
-/

namespace TokenBridge.Json

namespace Value

mutual

/-- The value as a reader finds it. -/
def tree : Value → Tree
  | null => .null
  | bool b => .bool b
  | num n => .num n.numeral
  | str s => .str ⟨some s⟩
  | list items => .list (itemTrees items) .closed
  | object members => .object (memberTrees members) .closed

def itemTrees : List Value → List Tree
  | [] => []
  | v :: rest => v.tree :: itemTrees rest

def memberTrees : List (String × Value) → List (Quoted × Tree)
  | [] => []
  | (k, v) :: rest => (⟨some k⟩, v.tree) :: memberTrees rest

end

theorem itemTrees_eq (items : List Value) : itemTrees items = items.map tree := by
  induction items with
  | nil => rfl
  | cons v items ih => rw [itemTrees, ih, List.map_cons]

theorem memberTrees_eq (members : List (String × Value)) :
    memberTrees members = members.map fun m => (⟨some m.1⟩, m.2.tree) := by
  induction members with
  | nil => rfl
  | cons m members ih => rw [memberTrees, ih, List.map_cons]

/-- A value starts with a token that closes nothing. -/
theorem tokens_cons (v : Value) : ∃ t ts, v.tokens = t :: ts ∧ t ≠ .closeList := by
  cases v <;> exact ⟨_, _, rfl, nofun⟩

end Value

namespace Document

open Progress

/-- The document that a reader arrives at with these tokens left. -/
def after (rest : List Token) : Progress → Document
  | .go around next => ofTokens around next rest
  | .root tree => ⟨tree, !rest.isEmpty⟩
  | .stop tree => ⟨tree, false⟩

theorem ofTokens_cons (around : Context) (next : Expected) (t : Token) (rest : List Token) :
    ofTokens around next (t :: rest) = after rest (next.step around t) := by
  rw [ofTokens]
  cases next.step around t <;> rfl

/-- From a place where a value should be, its tokens lead to the place behind it. -/
def Reads (v : Value) : Prop :=
  ∀ around rest, ofTokens around .value (v.tokens ++ rest) = after rest (complete v.tree around)

theorem ofTokens_firstItem {v : Value} (h : Reads v) (around : Context) (rest : List Token) :
    ofTokens around .firstItem (v.tokens ++ rest) = ofTokens around (.afterItem [v.tree]) rest := by
  obtain ⟨t, ts, htokens, ht⟩ := v.tokens_cons
  have hfirst : Expected.firstItem.step around t = .value (.item [] :: around) t := if_neg ht
  have hstep : ofTokens around .firstItem (v.tokens ++ rest) =
      ofTokens (.item [] :: around) .value (v.tokens ++ rest) := by
    rw [htokens, List.cons_append, ofTokens_cons, ofTokens_cons, hfirst]
    rfl
  rw [hstep, h]
  rfl

theorem ofTokens_afterItem {items : List Value} (h : ∀ v ∈ items, Reads v) (around : Context)
    (before : List Tree) (rest : List Token) :
    ofTokens around (.afterItem before)
        (items.flatMap (fun v => .comma :: v.tokens) ++ .closeList :: rest) =
      after rest (complete (.list (before.reverse ++ items.map Value.tree) .closed) around) := by
  induction items generalizing before with
  | nil =>
    rw [List.map_nil, List.append_nil]
    exact ofTokens_cons around _ _ rest
  | cons v items ih =>
    have hitems := ih (fun w hw => h w (List.mem_cons_of_mem v hw)) (v.tree :: before)
    rw [List.reverse_cons, List.append_assoc] at hitems
    rw [List.flatMap_cons, List.append_assoc, List.cons_append, ofTokens_cons]
    show ofTokens (.item before :: around) .value _ = _
    rw [h v List.mem_cons_self]
    exact hitems

theorem ofTokens_colon {v : Value} (h : Reads v) (around : Context) (before : List (Quoted × Tree))
    (key : Quoted) (rest : List Token) :
    ofTokens around (.colon before key) (.colon :: (v.tokens ++ rest)) =
      ofTokens around (.afterMember ((key, v.tree) :: before)) rest := by
  rw [ofTokens_cons]
  show ofTokens (.member before key :: around) .value _ = _
  rw [h]
  rfl

theorem ofTokens_afterMember {members : List (String × Value)} (h : ∀ m ∈ members, Reads m.2)
    (around : Context) (before : List (Quoted × Tree)) (rest : List Token) :
    ofTokens around (.afterMember before)
        (members.flatMap (fun m => .comma :: .str ⟨some m.1⟩ :: .colon :: m.2.tokens) ++
          .closeObject :: rest) =
      after rest (complete (.object (before.reverse ++
        members.map fun m => (⟨some m.1⟩, m.2.tree)) .closed) around) := by
  induction members generalizing before with
  | nil =>
    rw [List.map_nil, List.append_nil]
    exact ofTokens_cons around _ _ rest
  | cons m members ih =>
    have hmembers := ih (fun n hn => h n (List.mem_cons_of_mem m hn))
      ((⟨some m.1⟩, m.2.tree) :: before)
    rw [List.reverse_cons, List.append_assoc] at hmembers
    rw [List.flatMap_cons, List.append_assoc, List.cons_append, ofTokens_cons]
    show ofTokens around (.nextKey before) (.str ⟨some m.1⟩ :: _) = _
    rw [ofTokens_cons]
    show ofTokens around (.colon before ⟨some m.1⟩) (.colon :: (m.2.tokens ++ _)) = _
    rw [ofTokens_colon (h m List.mem_cons_self)]
    exact hmembers

theorem reads_tokens {v : Value} (h : v.Exact) : Reads v := by
  intro around rest
  induction h generalizing around rest with
  | null | bool | int | str => exact ofTokens_cons around _ _ rest
  | @list items _ ih =>
    rw [Value.tokens, Value.tree, Value.itemTokens_eq, Value.itemTrees_eq, List.cons_append,
      ofTokens_cons]
    show ofTokens around .firstItem _ = _
    rw [List.append_assoc]
    cases items with
    | nil => exact ofTokens_cons around _ _ rest
    | cons v items =>
      rw [List.map_cons, intercalate_cons, List.flatMap_map, List.append_assoc]
      rw [ofTokens_firstItem fun around rest => ih v List.mem_cons_self around rest]
      exact ofTokens_afterItem (fun w hw around rest =>
        ih w (List.mem_cons_of_mem v hw) around rest) around [v.tree] rest
  | @object members _ ih =>
    rw [Value.tokens, Value.tree, Value.memberTokens_eq, Value.memberTrees_eq, List.cons_append,
      ofTokens_cons]
    show ofTokens around .firstKey _ = _
    rw [List.append_assoc]
    cases members with
    | nil => exact ofTokens_cons around _ _ rest
    | cons m members =>
      rw [List.map_cons, intercalate_cons, List.flatMap_map, List.append_assoc, List.cons_append,
        ofTokens_cons]
      show ofTokens around (.colon [] ⟨some m.1⟩) (.colon :: (m.2.tokens ++ _)) = _
      rw [ofTokens_colon fun around rest => ih m List.mem_cons_self around rest]
      exact ofTokens_afterMember (fun n hn around rest =>
        ih n (List.mem_cons_of_mem m hn) around rest) around [(⟨some m.1⟩, m.2.tree)] rest

theorem ofText_compact {v : Value} (h : v.Exact) : ofText v.compact = ⟨v.tree, false⟩ := by
  rw [ofText, Value.ofText_compact h, ← List.append_nil v.tokens, reads_tokens h]
  rfl

end Document

end TokenBridge.Json
