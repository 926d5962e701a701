import TokenBridge.Text.Composite
import TokenBridge.Text.Mark

/-!
# Composed texts

Letters with marks have more than one spelling. `compose` gives the one of form C: every
character is taken apart, marks of different classes are put in order (`arrange`), and
letters are joined with their marks again as far as nothing stands between them.
-/

namespace TokenBridge.Text

/-- Puts a character in front of arranged ones: a mark moves behind marks of lower classes. -/
def arrangeIn (c : Char) : List Char → List Char
  | [] => [c]
  | d :: rest =>
    if combiningClass d ≠ 0 ∧ combiningClass d < combiningClass c then d :: arrangeIn c rest
    else c :: d :: rest

/-- Marks in the order of their classes; marks of one class stay in their order. -/
def arrange : List Char → List Char
  | [] => []
  | c :: rest => arrangeIn c (arrange rest)

/-- One of the marks that are left over after a letter, newest first, hides the letter from
a character. -/
def hidden (between : List Char) (c : Char) : Bool :=
  between.head?.any fun mark => combiningClass c ≤ combiningClass mark

/-- Joins a letter with what follows, given the marks that are left over after it. -/
def composeAfter (letter : Char) (between : List Char) : List Char → List Char
  | [] => letter :: between.reverse
  | c :: rest =>
    match if hidden between c then none else compose? letter c with
    | some joined => composeAfter joined between rest
    | none =>
      if combiningClass c = 0 then letter :: (between.reverse ++ composeAfter c [] rest)
      else composeAfter letter (c :: between) rest

/-- Joins letters and marks in arranged text. -/
def composeAll : List Char → List Char
  | [] => []
  | c :: rest => if combiningClass c = 0 then composeAfter c [] rest else c :: composeAll rest

/-- The composed spelling of a text. -/
def compose (cs : List Char) : List Char := composeAll (arrange (cs.flatMap decompose))

/-- No mark stands right after a mark of a higher class. -/
def Arranged : List Char → Prop
  | a :: b :: rest =>
    (combiningClass b = 0 ∨ combiningClass a ≤ combiningClass b) ∧ Arranged (b :: rest)
  | _ => True

theorem arrangeIn_arranged (c : Char) {cs : List Char} (h : Arranged cs) :
    Arranged (arrangeIn c cs) := by
  induction cs with
  | nil => trivial
  | cons d rest ih =>
    simp only [arrangeIn]
    split
    · rename_i hd
      cases rest with
      | nil => exact ⟨.inr (Nat.le_of_lt hd.2), trivial⟩
      | cons e rest =>
        have := ih h.2
        rw [arrangeIn] at this ⊢
        split at this
        · rename_i he
          rw [if_pos he]
          exact ⟨h.1, this⟩
        · rename_i he
          rw [if_neg he]
          exact ⟨.inr (Nat.le_of_lt hd.2), this⟩
    · rename_i hd
      refine ⟨?_, h⟩
      by_cases h0 : combiningClass d = 0
      · exact .inl h0
      · exact .inr (Nat.le_of_not_lt fun hl => hd ⟨h0, hl⟩)

/-- Arranging puts marks in order. -/
theorem arrange_arranged (cs : List Char) : Arranged (arrange cs) := by
  induction cs with
  | nil => trivial
  | cons c rest ih => exact arrangeIn_arranged c ih

theorem arrangeIn_perm (c : Char) (cs : List Char) : (arrangeIn c cs).Perm (c :: cs) := by
  induction cs with
  | nil => exact .refl _
  | cons d rest ih =>
    simp only [arrangeIn]
    split
    · exact (ih.cons d).trans (.swap c d rest)
    · exact .refl _

/-- Arranging loses no character. -/
theorem arrange_perm (cs : List Char) : (arrange cs).Perm cs := by
  induction cs with
  | nil => exact .refl _
  | cons c rest ih => exact (arrangeIn_perm c _).trans (ih.cons c)

end TokenBridge.Text
