import Mathlib.Data.List.Forall2
import Mathlib.Data.List.Nodup
import TokenBridge.Json.Form
import TokenBridge.Proofs.Json.Parsing

/-!
# Values that are read as they were written

`f.Restores room a` says that the form `f` reads what it writes for `a` as `a` again. Each way of
building a form keeps this: a list restores its items, and a record restores a structure if each
field restores its part of it and no two fields have one name. So of a form only the fields need
be looked at, and of a field only its own form.
-/

namespace TokenBridge.Json

/-! ## Integers -/

theorem gather_eq {word : Nat} {cs : List Char} (h : Nat.ofDigitChars 10 cs word < UInt64.size) :
    gather word cs = ⟨Nat.ofDigitChars 10 cs word, 0⟩ := by
  induction cs generalizing word with
  | nil => rfl
  | cons c cs ih =>
    rw [Decimal.ofDigitChars_step] at h ⊢
    have hnext : word * 10 + (c.toNat - 48) < UInt64.size :=
      Nat.lt_of_le_of_lt (Decimal.le_ofDigitChars ..) h
    rw [gather, if_pos hnext, ih h]

theorem Number.numeral_natural (n : Nat) :
    (Number.int n).numeral = ⟨false, Nat.toDigits 10 n, [], none⟩ := by
  rw [numeral, decide_eq_false (by omega), Int.natAbs_natCast]

theorem Numeral.read_natural {n : Nat} (h : n < UInt64.size) :
    (Number.int n).numeral.read = .ok (.int n) := by
  have hvalue : Nat.ofDigitChars 10 (Nat.toDigits 10 n) 0 = n :=
    Nat.ofDigitChars_toDigits (by decide) (by decide)
  have hgather : gather 0 (Nat.toDigits 10 n) = ⟨n, 0⟩ := by
    rw [gather_eq (by rwa [hvalue]), hvalue]
  simp only [Number.numeral_natural, read, hgather]
  rfl

theorem Numeral.natural?_natural (n : Nat) : (Number.int n).numeral.natural? = some n := by
  simp only [Number.numeral_natural, natural?, Decimal.natOfDigits_toDigits]
  rfl

theorem Decoder.natural_tree {bound n : Nat} (hn : n ≤ bound) (hbound : bound < UInt64.size)
    (room : Nat) : natural bound room (Value.nat n).tree = .ok n := by
  show (Numeral.read (Number.int n).numeral >>= _) = _
  rw [Numeral.read_natural (Nat.lt_of_le_of_lt hn hbound)]
  show (if (0 : Int) ≤ n ∧ (n : Int) ≤ bound then Except.ok _ else _) = _
  rw [if_pos (by omega), Int.toNat_natCast]

theorem Decoder.wide_tree (n : Wide) (room : Nat) : wide room (Value.nat n.toNat).tree = .ok n := by
  have hlt : n.toNat < Wide.size := n.isLt
  simp only [Value.nat, Value.tree, wide, Numeral.natural?_natural, hlt, ↓reduceIte,
    BitVec.ofNat_toNat, BitVec.setWidth_eq]

/-! ## Forms -/

/-- What `f` writes for `a` is read as `a` with that much room. -/
structure Form.Restores {α : Type} (f : Form α) (room : Nat) (a : α) : Prop where
  exact : (f.write a).Exact
  read_tree : f.read room (f.write a).tree = .ok a

namespace Form

variable {α β : Type} {f : Form α} {room : Nat}

theorem Restores.ofText {a : α} (h : f.Restores maxDepth a) :
    Decoder.ofText f.read (f.write a).compact = .ok a := by
  simp only [Decoder.ofText, Document.ofText_compact h.exact, h.read_tree]
  rfl

theorem text_restores (room : Nat) (s : String) : text.Restores room s := ⟨.str s, rfl⟩

/-- A word is a number within the bound that reading it checks. -/
theorem word_restores {toNat : α → Nat} {ofNat : Nat → α} {bound : Nat}
    (hbound : bound < UInt64.size) (room : Nat) {a : α} (hle : toNat a ≤ bound)
    (hback : ofNat (toNat a) = a) :
    Form.Restores ⟨fun a => .nat (toNat a), fun room t => ofNat <$> Decoder.natural bound room t⟩
      room a := by
  refine ⟨.int (toNat a), ?_⟩
  show ofNat <$> Decoder.natural bound room (Value.nat (toNat a)).tree = _
  rw [Decoder.natural_tree hle hbound]
  exact congrArg Except.ok hback

theorem uint8_restores (room : Nat) (n : UInt8) : uint8.Restores room n :=
  word_restores (by decide) room (Nat.le_sub_one_of_lt n.toNat_lt) UInt8.ofNat_toNat

theorem uint16_restores (room : Nat) (n : UInt16) : uint16.Restores room n :=
  word_restores (by decide) room (Nat.le_sub_one_of_lt n.toNat_lt) UInt16.ofNat_toNat

theorem uint64_restores (room : Nat) (n : UInt64) : uint64.Restores room n :=
  word_restores (by decide) room (Nat.le_sub_one_of_lt n.toNat_lt) UInt64.ofNat_toNat

theorem wide_restores (room : Nat) (n : Wide) : wide.Restores room n :=
  ⟨.int n.toNat, Decoder.wide_tree n room⟩

theorem Restores.via {into : α → β} {back : β → α} {b : β} (h : f.Restores room (back b))
    (hback : into (back b) = b) : (f.via into back).Restores room b := by
  refine ⟨h.exact, ?_⟩
  show into <$> f.read room (f.write (back b)).tree = _
  rw [h.read_tree]
  exact congrArg Except.ok hback

theorem ofText_restores {print : α → String} {parse : String → Option α} {a : α}
    (h : parse (print a) = some a) (room : Nat) : (Form.ofText print parse).Restores room a := by
  refine ⟨.str (print a), ?_⟩
  show Decoder.textOf parse room (Value.str (print a)).tree = _
  simp only [Decoder.textOf, Decoder.text, Value.tree, Quoted.read, bind, Except.bind, h]
  rfl

/-- A value that is null or restored; no value may be written as null. -/
theorem nullable_restores {a : Option α} (h : ∀ x ∈ a, f.Restores room x ∧ f.write x ≠ .null) :
    f.nullable.Restores room a := by
  cases a with
  | none => exact ⟨.null, rfl⟩
  | some a =>
    obtain ⟨hrestores, hnull⟩ := h a rfl
    have hread : Decoder.nullable f.read room (f.write a).tree =
        some <$> f.read room (f.write a).tree := by
      cases hv : f.write a with
      | null => exact absurd hv hnull
      | _ => rfl
    refine ⟨hrestores.exact, ?_⟩
    show Decoder.nullable f.read room (f.write a).tree = _
    rw [hread, hrestores.read_tree]
    rfl

theorem mapM_tree {xs : List α} (h : ∀ x ∈ xs, f.Restores room x) :
    (Value.itemTrees (xs.map f.write)).mapM (f.read room) = .ok xs := by
  induction xs with
  | nil => rfl
  | cons x xs ih =>
    rw [List.map_cons, Value.itemTrees, List.mapM_cons, (h x List.mem_cons_self).read_tree,
      ih fun y hy => h y (List.mem_cons_of_mem x hy)]
    rfl

theorem list_restores {xs : List α} (h : ∀ x ∈ xs, f.Restores room x) :
    f.list.Restores (room + 1) xs := by
  refine ⟨.list fun v hv => ?_, ?_⟩
  · obtain ⟨x, hx, rfl⟩ := List.mem_map.1 hv
    exact (h x hx).exact
  · show ((Value.itemTrees (xs.map f.write)).mapM (f.read room) >>= _) = _
    rw [mapM_tree h]
    rfl

theorem exactly_tree {n : Nat} {xs : List α} (hlen : xs.length = n)
    (h : ∀ x ∈ xs, f.Restores room x) :
    Decoder.exactly n f.read (room + 1) (Value.list (xs.map f.write)).tree = .ok ⟨xs, hlen⟩ := by
  have hitems : (Value.itemTrees (xs.map f.write)).length = n := by
    rw [Value.itemTrees_eq, List.length_map, List.length_map, hlen]
  have hread : ((Value.itemTrees (xs.map f.write)).take n).mapM (f.read room) = .ok xs := by
    rw [List.take_of_length_le (Nat.le_of_eq hitems), mapM_tree h]
  simp only [Value.tree, Decoder.exactly, hread, bind, Except.bind, dif_pos hlen, hitems,
    Nat.lt_irrefl, ↓reduceIte]
  rfl

theorem names_restores {name : α → String} {all : List α} {other : Option α} {a : α}
    (h : Decoder.findVariant (all.map fun a => .unit (name a) a) other (name a) =
      .ok (.unit (name a) a)) (room : Nat) : (names name all other).Restores room a := by
  refine ⟨.str (name a), ?_⟩
  show (Decoder.findVariant _ other (name a) >>= fun v => v.read room none) = _
  rw [h]
  rfl

end Form

/-! ## Records -/

/-- The one entry with its key is found under it. -/
theorem find?_key {α : Type} {key : α → String} {xs : List α} (hnodup : (xs.map key).Nodup) {x : α}
    (hx : x ∈ xs) : xs.find? (key · == key x) = some x := by
  induction xs with
  | nil => cases hx
  | cons y xs ih =>
    rw [List.map_cons, List.nodup_cons] at hnodup
    obtain rfl | hx := List.mem_cons.1 hx
    · rw [List.find?_cons_of_pos (by simp)]
    · have hne : key y ≠ key x := fun heq => hnodup.1 (heq ▸ List.mem_map_of_mem hx)
      rw [List.find?_cons_of_neg (by simpa using hne), ih hnodup.2 hx]

namespace Record

variable {σ α β : Type} {room : Nat} {s : σ}

/-- A field takes the member that is written for it. -/
structure Takes (room : Nat) (f : Field) (m : String × Value) : Prop where
  name : f.name = m.1
  exact : m.2.Exact
  read : f.read room m.2.tree = .ok ()

/-- What `r` writes for `s` is taken by its fields, one by one, and they bring back `a`. -/
structure Restores (r : Record σ α) (room : Nat) (s : σ) (a : α) : Prop where
  fields : List.Forall₂ (Takes room) r.fields (r.write s)
  build : ∀ find, (∀ m ∈ r.write s, find m.1 = some m.2.tree) → r.build room find = .ok a

theorem Restores.map {r : Record σ α} {a : α} (h : r.Restores room s a) (g : α → β) :
    (g <$> r).Restores room s (g a) where
  fields := h.fields
  build find hfind := by
    show g <$> r.build room find = _
    rw [h.build find hfind]
    rfl

theorem Restores.seq {r : Record σ (α → β)} {r' : Record σ α} {g : α → β} {a : α}
    (h : r.Restores room s g) (h' : r'.Restores room s a) : (r <*> r').Restores room s (g a) where
  fields := List.rel_append h.fields h'.fields
  build find hfind := by
    show r.build room find <*> r'.build room find = _
    rw [h.build find fun m hm => hfind m (List.mem_append_left _ hm),
      h'.build find fun m hm => hfind m (List.mem_append_right _ hm)]
    rfl

theorem fieldOr_restores {name : String} {get : σ → α} {form : Form α} (lacking ending : Option α)
    (h : form.Restores room (get s)) :
    (fieldOr name get form lacking ending).Restores room s (get s) where
  fields := by
    refine .cons ⟨rfl, h.exact, ?_⟩ .nil
    show discard (form.read room (form.write (get s)).tree) = _
    rw [h.read_tree]
    rfl
  build find hfind := by
    have hname : find name = some (form.write (get s)).tree := hfind _ List.mem_cons_self
    simp only [fieldOr, hname]
    exact h.read_tree

theorem field_restores {name : String} {get : σ → α} {form : Form α}
    (h : form.Restores room (get s)) : (field name get form).Restores room s (get s) :=
  fieldOr_restores none none h

theorem withDefault_restores {name : String} {get : σ → α} {form : Form α} {a : α}
    (h : form.Restores room (get s)) : (withDefault name get form a).Restores room s (get s) :=
  fieldOr_restores (some a) (some a) h

theorem optional_restores {name : String} {get : σ → Option α} {form : Form α}
    (h : ∀ a ∈ get s, form.Restores room a ∧ form.write a ≠ .null) :
    (optional name get form).Restores room s (get s) :=
  fieldOr_restores (some none) none (Form.nullable_restores h)

theorem fieldTrees_written {fields : List Field} {members : List (String × Value)}
    (hfields : ∀ m ∈ members, ∃ f ∈ fields, Takes room f m)
    (hnames : (fields.map Field.name).Nodup) (hmembers : (members.map Prod.fst).Nodup)
    {found : List (String × Tree)} (hnew : ∀ m ∈ members, ∀ e ∈ found, e.1 ≠ m.1) :
    fieldTrees fields room found (Value.memberTrees members) =
      .ok ((members.map fun m => (m.1, m.2.tree)).reverse ++ found) := by
  induction members generalizing found with
  | nil => rfl
  | cons m members ih =>
    obtain ⟨f, hf, htakes⟩ := hfields m List.mem_cons_self
    rw [List.map_cons, List.nodup_cons] at hmembers
    have hfind : fields.find? (·.name == m.1) = some f := by
      rw [← htakes.name]
      exact find?_key hnames hf
    have hfresh : found.any (·.1 == m.1) = false := by
      rw [List.any_eq_false]
      exact fun e he => by simpa using hnew m List.mem_cons_self e he
    have hrest : ∀ n ∈ members, ∀ e ∈ (m.1, m.2.tree) :: found, e.1 ≠ n.1 := by
      intro n hn e he
      obtain rfl | he := List.mem_cons.1 he
      · exact fun heq => hmembers.1 (heq ▸ List.mem_map_of_mem hn)
      · exact hnew n (List.mem_cons_of_mem m hn) e he
    have hmore := ih (fun n hn => hfields n (List.mem_cons_of_mem m hn)) hmembers.2 hrest
    rw [List.map_cons, List.reverse_cons, List.append_assoc]
    rw [List.singleton_append, ← hmore]
    show fieldTrees fields room found ((⟨some m.1⟩, m.2.tree) :: _) = _
    simp only [fieldTrees, Quoted.read, bind, Except.bind, hfind, hfresh, htakes.read]
    rfl

section
variable {fields : List Field} {members : List (String × Value)}
  (h : List.Forall₂ (Takes room) fields members)
include h

theorem names_written : members.map Prod.fst = fields.map Field.name := by
  induction h with
  | nil => rfl
  | cons htakes _ ih => rw [List.map_cons, List.map_cons, htakes.name, ih]

theorem exists_taker {m : String × Value} (hm : m ∈ members) : ∃ f ∈ fields, Takes room f m := by
  induction h with
  | nil => cases hm
  | cons htakes _ ih =>
    obtain rfl | hm := List.mem_cons.1 hm
    · exact ⟨_, List.mem_cons_self, htakes⟩
    · obtain ⟨f, hf, htakes⟩ := ih hm
      exact ⟨f, List.mem_cons_of_mem _ hf, htakes⟩

end

theorem form_restores {r : Record α α} {a : α} (h : r.Restores room a a)
    (hnodup : (r.fields.map Field.name).Nodup) : r.form.Restores (room + 1) a := by
  have hnames := names_written h.fields
  let found := ((r.write a).map fun m => (m.1, m.2.tree)).reverse
  have hfieldTrees : fieldTrees r.fields room [] (Value.memberTrees (r.write a)) = .ok found := by
    rw [fieldTrees_written (fun m => exists_taker h.fields) hnodup (hnames ▸ hnodup)
      (fun _ _ _ he => absurd he List.not_mem_nil), List.append_nil]
  have hlookUp : ∀ m ∈ r.write a, lookUp found m.1 = some m.2.tree := by
    intro m hm
    have hkeys : (found.map Prod.fst).Nodup := by
      rw [List.map_reverse, List.map_map]
      exact List.nodup_reverse.2 (hnames ▸ hnodup)
    have hmem : (m.1, m.2.tree) ∈ found := List.mem_reverse.2 (List.mem_map_of_mem hm)
    rw [lookUp, find?_key hkeys hmem]
    rfl
  have hcheckAll : checkAll r.fields found = .ok () := by
    refine if_pos (List.all_eq_true.2 fun f hf => ?_)
    obtain ⟨m, hm, hname⟩ := List.mem_map.1 (hnames ▸ List.mem_map_of_mem hf)
    rw [← hname, hlookUp m hm, Option.isSome_some, Bool.or_true]
  refine ⟨.object fun m hm => ?_, ?_⟩
  · obtain ⟨f, -, htakes⟩ := exists_taker h.fields hm
    exact htakes.exact
  · show (do
      let found ← fieldTrees r.fields room [] (Value.memberTrees (r.write a))
      Ending.closed.check
      checkAll r.fields found
      r.build room (lookUp found)) = _
    rw [hfieldTrees]
    show (checkAll r.fields found >>= fun _ => r.build room (lookUp found)) = _
    rw [hcheckAll]
    exact h.build (lookUp found) hlookUp

end Record

end TokenBridge.Json
