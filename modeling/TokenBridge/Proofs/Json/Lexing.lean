import TokenBridge.Json.Token
import TokenBridge.Json.Value
import TokenBridge.Proofs.Digits

/-!
# Tokens of written JSON

A value whose numbers are integers (`Value.Exact`) is written as the text of its tokens: cut into
tokens again, it gives exactly `Value.tokens` (`ofText_compact`). A token is found in any text that
it starts, except that a number must not go on there, so `Lexes` asks only that the text continues
with one of the marks that can follow a value.
-/

namespace TokenBridge.Json

open Decimal.Real (isDigit)

/-! ## The tokens of a value -/

/-- The parts of an integer as they are written; of a double there is nothing to say here. -/
def Number.numeral : Number → Numeral
  | .int n => ⟨n < 0, Nat.toDigits 10 n.natAbs, [], none⟩
  | .real _ => ⟨false, [], [], none⟩

namespace Value

/-- No number in it is a double. -/
inductive Exact : Value → Prop where
  | null : Exact null
  | bool (b : Bool) : Exact (bool b)
  | int (n : Int) : Exact (num (.int n))
  | str (s : String) : Exact (str s)
  | list {items : List Value} (h : ∀ v ∈ items, Exact v) : Exact (list items)
  | object {members : List (String × Value)} (h : ∀ m ∈ members, Exact m.2) : Exact (object members)

mutual

def tokens : Value → List Token
  | null => [.null]
  | bool b => [.bool b]
  | num n => [.num n.numeral]
  | str s => [.str ⟨some s⟩]
  | list items => .openList :: ([.comma].intercalate (itemTokens items) ++ [.closeList])
  | object members => .openObject :: ([.comma].intercalate (memberTokens members) ++ [.closeObject])

def itemTokens : List Value → List (List Token)
  | [] => []
  | v :: rest => v.tokens :: itemTokens rest

def memberTokens : List (String × Value) → List (List Token)
  | [] => []
  | (k, v) :: rest => (.str ⟨some k⟩ :: .colon :: v.tokens) :: memberTokens rest

end

theorem itemTokens_eq (items : List Value) : itemTokens items = items.map tokens := by
  induction items with
  | nil => rfl
  | cons v items ih => rw [itemTokens, ih, List.map_cons]

theorem memberTokens_eq (members : List (String × Value)) :
    memberTokens members = members.map fun m => .str ⟨some m.1⟩ :: .colon :: m.2.tokens := by
  induction members with
  | nil => rfl
  | cons m members ih => rw [memberTokens, ih, List.map_cons]

theorem compactItems_eq (items : List Value) : compactItems items = items.map compactChars := by
  induction items with
  | nil => rfl
  | cons v items ih => rw [compactItems, ih, List.map_cons]

theorem compactMembers_eq (members : List (String × Value)) :
    compactMembers members = members.map fun m => quote m.1 ++ ':' :: m.2.compactChars := by
  induction members with
  | nil => rfl
  | cons m members ih => rw [compactMembers, ih, List.map_cons]

/-- Joined parts are the first part and then each further one behind a separator. -/
theorem joined_cons (separator first : List Char) (parts : List (List Char)) :
    joined separator (first :: parts) = first ++ parts.flatMap (separator ++ ·) := by
  induction parts generalizing first with
  | nil => rw [joined, List.flatMap_nil, List.append_nil]
  | cons part parts ih =>
    rw [joined, ih, List.flatMap_cons, List.append_assoc, List.append_assoc]
    exact nofun

end Value

theorem intercalate_cons {α : Type} (separator first : List α) (parts : List (List α)) :
    separator.intercalate (first :: parts) = first ++ parts.flatMap (separator ++ ·) := by
  induction parts generalizing first with
  | nil => rw [List.intercalate_singleton, List.flatMap_nil, List.append_nil]
  | cons part parts ih =>
    rw [List.intercalate_cons_cons, ih, List.flatMap_cons, List.append_assoc, List.append_assoc]

/-! ## Texts and their tokens -/

/-- The text is over or goes on with a mark that can stand behind a value or a key. -/
def Follows (rest : List Char) : Prop :=
  ∀ c ∈ rest.head?, c = ',' ∨ c = ':' ∨ c = ']' ∨ c = '\x7d'

theorem follows_nil : Follows [] := nofun

theorem follows_cons {c : Char} {rest : List Char} (h : c = ',' ∨ c = ':' ∨ c = ']' ∨ c = '\x7d') :
    Follows (c :: rest) := by
  rintro _ ⟨⟩
  exact h

/-- However a text goes on, it starts with these tokens, and those of the continuation come next. -/
def Lexes (cs : List Char) (ts : List Token) : Prop :=
  ∀ rest most, Follows rest → (cs ++ rest).length ≤ most →
    ∃ more, rest.length ≤ more ∧ tokensFor most (cs ++ rest) = ts ++ tokensFor more rest

namespace Lexes

theorem nil : Lexes [] [] := fun _ most _ h => ⟨most, h, rfl⟩

theorem append {cs cs' : List Char} {ts ts' : List Token} (h : Lexes cs ts) (h' : Lexes cs' ts')
    (hnext : ∀ rest, Follows rest → Follows (cs' ++ rest)) : Lexes (cs ++ cs') (ts ++ ts') := by
  intro rest most hrest hlen
  rw [List.append_assoc] at hlen ⊢
  obtain ⟨more, hmore, heq⟩ := h (cs' ++ rest) most (hnext rest hrest) hlen
  obtain ⟨more', hmore', heq'⟩ := h' rest more hrest hmore
  exact ⟨more', hmore', by rw [heq, heq', List.append_assoc]⟩

/-- A token that starts with `start`. -/
theorem token {start : Char} {cs : List Char} {t : Token} (hspace : isSpace start = false)
    (h : ∀ rest, Follows rest → nextToken start (cs ++ rest) = (t, rest)) :
    Lexes (start :: cs) [t] := by
  intro rest most hrest hlen
  rw [List.cons_append, List.length_cons, List.length_append] at hlen
  obtain ⟨more, rfl⟩ : ∃ more, most = more + 1 := ⟨most - 1, by omega⟩
  refine ⟨more, by omega, ?_⟩
  rw [List.cons_append, tokensFor, List.dropWhile_cons_of_neg (by simp [hspace])]
  simp only [h rest hrest]
  rfl

/-- A token that is found whatever comes next. -/
theorem mark {start : Char} {t : Token} {cs : List Char} {ts : List Token}
    (hspace : isSpace start = false) (hmark : ∀ rest, nextToken start rest = (t, rest))
    (h : Lexes cs ts) : Lexes (start :: cs) (t :: ts) := by
  intro rest most hrest hlen
  rw [List.cons_append, List.length_cons] at hlen
  obtain ⟨more, rfl⟩ : ∃ more, most = more + 1 := ⟨most - 1, by omega⟩
  obtain ⟨more', hmore', heq⟩ := h rest more hrest (by omega)
  refine ⟨more', hmore', ?_⟩
  rw [List.cons_append, tokensFor, List.dropWhile_cons_of_neg (by simp [hspace])]
  simp only [hmark, heq]
  rfl

section
variable {α : Type} {f : α → List Char} {g : α → List Token} {xs : List α}

/-- Further parts, each behind a comma. -/
theorem further (h : ∀ x ∈ xs, Lexes (f x) (g x)) :
    Lexes (xs.flatMap fun x => ',' :: f x) (xs.flatMap fun x => .comma :: g x) ∧
      ∀ rest, Follows rest → Follows ((xs.flatMap fun x => ',' :: f x) ++ rest) := by
  induction xs with
  | nil => exact ⟨nil, fun _ hrest => hrest⟩
  | cons x xs ih =>
    obtain ⟨hlex, hnext⟩ := ih fun y hy => h y (List.mem_cons_of_mem x hy)
    rw [List.flatMap_cons, List.flatMap_cons]
    refine ⟨mark rfl (fun _ => rfl) ((h x List.mem_cons_self).append hlex hnext), fun rest _ => ?_⟩
    exact follows_cons (.inl rfl)

/-- Parts with commas between them, in front of a closing mark. -/
theorem parts (h : ∀ x ∈ xs, Lexes (f x) (g x)) {stop : Char} {t : Token}
    (hspace : isSpace stop = false) (hmark : ∀ rest, nextToken stop rest = (t, rest))
    (hstop : stop = ',' ∨ stop = ':' ∨ stop = ']' ∨ stop = '\x7d') :
    Lexes (Value.joined [','] (xs.map f) ++ [stop]) ([.comma].intercalate (xs.map g) ++ [t]) := by
  have hend : Lexes [stop] [t] := mark hspace hmark nil
  have hfollows (cs : List Char) : Follows (stop :: cs) := follows_cons hstop
  cases xs with
  | nil => exact hend
  | cons x xs =>
    obtain ⟨hlex, hnext⟩ := further fun y hy => h y (List.mem_cons_of_mem x hy)
    rw [List.map_cons, List.map_cons, Value.joined_cons, intercalate_cons, List.flatMap_map,
      List.flatMap_map]
    exact ((h x List.mem_cons_self).append hlex hnext).append hend fun rest _ => hfollows rest

end

end Lexes

/-! ## Quoted text -/

namespace Value

/-- The piece that a character of a quoted text is cut into. -/
def pieceOf (c : Char) : Piece :=
  if c.toNat < 32 ∧ c ∉ ['\x08', '\x0c', '\n', '\r', '\t'] then .unit c.toNat else .char c

theorem codeUnit?_control : ∀ n < 32,
    codeUnit? '0' '0' (hexDigit (n / 16)) (hexDigit (n % 16)) = some n := by decide

theorem cutQuoted_plain (before : List Piece) {c : Char} (rest : List Char) (hquote : c ≠ '"')
    (hslash : c ≠ '\\') (hplain : 32 ≤ c.toNat) :
    cutQuoted before (c :: rest) = cutQuoted (.char c :: before) rest := by
  rw [cutQuoted, if_neg (Nat.not_lt.2 hplain)]
  all_goals
    intros
    contradiction

theorem cutQuoted_escape (before : List Piece) (c : Char) (rest : List Char) :
    cutQuoted before (escape c ++ rest) = cutQuoted (pieceOf c :: before) rest := by
  unfold escape
  split
  · subst c; rfl
  split
  · subst c; rfl
  split
  · subst c; rfl
  split
  · subst c; rfl
  split
  · subst c; rfl
  split
  · subst c; rfl
  split
  · subst c; rfl
  split
  · rename_i hcontrol
    have hunit := codeUnit?_control c.toNat hcontrol
    have hpiece : pieceOf c = .unit c.toNat := if_pos (by simp_all)
    rw [hpiece]
    show cutQuoted before ('\\' :: 'u' :: '0' :: '0' :: _ :: _ :: rest) = _
    rw [cutQuoted, hunit]
  · rename_i hquote hslash _ _ _ _ _ hplain
    have hpiece : pieceOf c = .char c := if_neg fun h => hplain h.1
    rw [hpiece]
    exact cutQuoted_plain before rest hquote hslash (Nat.not_lt.1 hplain)

theorem cutQuoted_quote (before : List Piece) (cs rest : List Char) :
    cutQuoted before (cs.flatMap escape ++ '"' :: rest) =
      (before.reverse ++ cs.map pieceOf, .ok rest) := by
  induction cs generalizing before with
  | nil => rw [List.flatMap_nil, List.nil_append, cutQuoted, List.map_nil, List.append_nil]
  | cons c cs ih =>
    rw [List.flatMap_cons, List.append_assoc, cutQuoted_escape, ih, List.reverse_cons,
      List.append_assoc]
    rfl

theorem joinAfter_pieces (before cs : List Char) :
    Piece.joinAfter before (cs.map pieceOf) = some (before.reverse ++ cs) := by
  induction cs generalizing before with
  | nil => rw [List.map_nil, Piece.joinAfter, List.append_nil]
  | cons c cs ih =>
    rw [List.map_cons, pieceOf]
    have hcs : Piece.joinAfter (c :: before) (cs.map pieceOf) =
        some (before.reverse ++ c :: cs) := by
      rw [ih, List.reverse_cons, List.append_assoc]
      rfl
    split
    · rename_i hcontrol
      have hlow : Piece.isLow c.toNat = false := by
        simp only [Piece.isLow, Bool.and_eq_false_iff, decide_eq_false_iff_not]
        omega
      have hhigh : Piece.isHigh c.toNat = false := by
        simp only [Piece.isHigh, Bool.and_eq_false_iff, decide_eq_false_iff_not]
        omega
      rw [Piece.joinAfter.eq_def]
      simp only [hlow, hhigh, Char.ofNat_toNat]
      exact hcs
    · exact hcs

/-- A text in quotes is one token, whatever comes next. -/
theorem quotedToken_quote (s : String) (rest : List Char) :
    quotedToken (s.toList.flatMap escape ++ '"' :: rest) = (.str ⟨some s⟩, rest) := by
  simp only [quotedToken, cutQuoted_quote, Piece.join?, List.reverse_nil, List.nil_append,
    joinAfter_pieces, Option.map_eq_map, Option.map_some, String.ofList_toList]

end Value

theorem lexes_quote (s : String) : Lexes (Value.quote s) [.str ⟨some s⟩] := by
  refine Lexes.token rfl fun rest _ => ?_
  rw [List.append_assoc]
  exact Value.quotedToken_quote s rest

/-! ## Numbers -/

theorem wholePart_toDigits (n : Nat) {rest : List Char} (hrest : Follows rest) :
    wholePart (Nat.toDigits 10 n ++ rest) = .ok (Nat.toDigits 10 n, rest) := by
  have hstops : Decimal.StopsDigits rest := by
    intro c hc
    obtain rfl | rfl | rfl | rfl := hrest c hc <;> rfl
  have hdigits : ∀ c ∈ Nat.toDigits 10 n, isDigit c = true :=
    fun c => Decimal.isDigit_of_mem_toDigits
  have hsome : someDigits (Nat.toDigits 10 n ++ rest) = .ok (Nat.toDigits 10 n, rest) := by
    rw [someDigits, splitDigits, Decimal.takeWhile_digits hdigits hstops,
      Decimal.dropWhile_digits hdigits hstops]
    simp [Nat.toDigits_ne_nil]
  simp only [wholePart, hsome, bind, Except.bind]
  split
  · rename_i hzero
    cases Decimal.eq_nil_of_toDigits hzero
  · rfl

theorem fractionPart_follows {rest : List Char} (h : Follows rest) :
    fractionPart rest = .ok ([], rest) := by
  cases rest with
  | nil => rfl
  | cons c rest => obtain rfl | rfl | rfl | rfl := h c rfl <;> rfl

theorem exponentPart_follows {rest : List Char} (h : Follows rest) :
    exponentPart rest = .ok (none, rest) := by
  cases rest with
  | nil => rfl
  | cons c rest => obtain rfl | rfl | rfl | rfl := h c rfl <;> rfl

theorem cutNumeral_negative (n : Nat) {rest : List Char} (h : Follows rest) :
    cutNumeral ('-' :: (Nat.toDigits 10 n ++ rest)) =
      .ok (⟨true, Nat.toDigits 10 n, [], none⟩, rest) := by
  simp only [cutNumeral, wholePart_toDigits n h, fractionPart_follows h, exponentPart_follows h,
    bind, Except.bind, pure, Except.pure]

theorem toDigits_cons (n : Nat) :
    ∃ start digits, Nat.toDigits 10 n = start :: digits ∧ isDigit start = true := by
  obtain ⟨start, digits, hdigits⟩ :=
    List.exists_cons_of_ne_nil (Nat.toDigits_ne_nil (n := n) (b := 10))
  refine ⟨start, digits, hdigits, Decimal.isDigit_of_mem_toDigits (n := n) ?_⟩
  rw [hdigits]
  exact List.mem_cons_self

theorem cutNumeral_toDigits (n : Nat) {rest : List Char} (h : Follows rest) :
    cutNumeral (Nat.toDigits 10 n ++ rest) = .ok (⟨false, Nat.toDigits 10 n, [], none⟩, rest) := by
  have hwhole := wholePart_toDigits n h
  obtain ⟨start, digits, hdigits, hstart⟩ := toDigits_cons n
  rw [hdigits, List.cons_append] at hwhole ⊢
  unfold cutNumeral
  split
  rename_i negative rest' hsign
  split at hsign
  · rename_i hminus
    obtain ⟨rfl, -⟩ := List.cons.inj hminus
    cases hstart
  · cases hsign
    simp only [hwhole, fractionPart_follows h, exponentPart_follows h, bind, Except.bind, pure,
      Except.pure]

/-- A number starts with a digit, and so does no other token. -/
theorem nextToken_digit {start : Char} (h : isDigit start = true) (rest : List Char) :
    nextToken start rest = numberToken start rest := by
  unfold nextToken
  split
  case h_11 => rw [h, Bool.or_true, if_pos rfl]
  all_goals cases h

theorem isSpace_of_isDigit {c : Char} (h : isDigit c = true) : isSpace c = false := by
  refine Bool.eq_false_iff.2 fun hspace => ?_
  simp only [isSpace, Bool.or_eq_true, beq_iff_eq] at hspace
  obtain ((rfl | rfl) | rfl) | rfl := hspace <;> cases h

theorem lexes_int (n : Int) : Lexes (Number.int n).text [.num (Number.int n).numeral] := by
  by_cases hneg : n < 0
  · have htext : (Number.int n).text = '-' :: Nat.toDigits 10 n.natAbs := by
      rw [Number.text, if_pos hneg]
      rfl
    rw [htext]
    refine Lexes.token rfl fun rest hrest => ?_
    show numberToken '-' _ = _
    rw [numberToken, cutNumeral_negative _ hrest, Number.numeral, decide_eq_true hneg]
  · have htext : (Number.int n).text = Nat.toDigits 10 n.natAbs := by
      rw [Number.text, if_neg hneg]
      rfl
    obtain ⟨start, digits, hdigits, hstart⟩ := toDigits_cons n.natAbs
    rw [htext, hdigits]
    refine Lexes.token (isSpace_of_isDigit hstart) fun rest hrest => ?_
    rw [nextToken_digit hstart, numberToken, ← List.cons_append, ← hdigits,
      cutNumeral_toDigits _ hrest, Number.numeral, decide_eq_false hneg]

/-! ## Whole values -/

namespace Value

theorem lexes_compact {v : Value} (h : v.Exact) : Lexes v.compactChars v.tokens := by
  induction h with
  | null => exact Lexes.token rfl fun _ _ => rfl
  | bool b => cases b <;> exact Lexes.token rfl fun _ _ => rfl
  | int n => exact lexes_int n
  | str s => exact lexes_quote s
  | list _ ih =>
    rw [compactChars, tokens, compactItems_eq, itemTokens_eq]
    exact Lexes.mark rfl (fun _ => rfl) (Lexes.parts ih rfl (fun _ => rfl) (by simp))
  | object _ ih =>
    rw [compactChars, tokens, compactMembers_eq, memberTokens_eq]
    refine Lexes.mark rfl (fun _ => rfl) (Lexes.parts (fun m hm => ?_) rfl (fun _ => rfl) (by simp))
    exact (lexes_quote m.1).append (Lexes.mark rfl (fun _ => rfl) (ih m hm)) fun rest _ =>
      follows_cons (by simp)

theorem ofText_compact {v : Value} (h : v.Exact) : Token.ofText v.compact = v.tokens := by
  obtain ⟨more, -, heq⟩ := lexes_compact h [] _ follows_nil (Nat.le_refl _)
  rw [Token.ofText, compact, String.toList_ofList]
  rw [List.append_nil] at heq
  rw [heq]
  cases more <;> simp [tokensFor]

end Value

end TokenBridge.Json
