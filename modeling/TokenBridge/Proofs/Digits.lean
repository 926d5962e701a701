import TokenBridge.Decimal.Real

/-!
# Decimal digits

The digits that a number is written with have its value again (`natOfDigits_toDigits`), do not
start with a zero unless that is all (`eq_nil_of_toDigits`), and are found in any text that goes on
without a digit (`takeWhile_digits`). A reader that watches a bound reads them as well, as long as
the number is within it (`readDigits_eq_ok`).
-/

namespace TokenBridge.Decimal

open Decimal.Real (isDigit natOfDigits)

theorem isDigit_eq (c : Char) : isDigit c = c.isDigit := by
  rw [Bool.eq_iff_iff, Char.isDigit_iff_toNat, isDigit, Bool.and_eq_true, decide_eq_true_eq,
    decide_eq_true_eq]
  exact Iff.rfl

theorem natOfDigits_eq (cs : List Char) : natOfDigits cs = Nat.ofDigitChars 10 cs 0 := by
  rw [natOfDigits, Nat.ofDigitChars_eq_foldl]
  congr 1
  funext n c
  rw [Nat.mul_comm]
  rfl

theorem ofDigitChars_step (c : Char) (cs : List Char) (value : Nat) :
    Nat.ofDigitChars 10 (c :: cs) value = Nat.ofDigitChars 10 cs (value * 10 + (c.toNat - 48)) := by
  rw [Nat.ofDigitChars_cons, Nat.mul_comm]
  rfl

theorem natOfDigits_toDigits (n : Nat) : natOfDigits (Nat.toDigits 10 n) = n := by
  rw [natOfDigits_eq, Nat.ofDigitChars_toDigits (by decide) (by decide)]

theorem isDigit_of_mem_toDigits {n : Nat} {c : Char} (h : c ∈ Nat.toDigits 10 n) :
    isDigit c = true := by
  rw [isDigit_eq]
  exact Nat.isDigit_of_mem_toDigits (by decide) (by decide) h

/-- A first digit that is zero is the only one. -/
theorem eq_nil_of_toDigits {n : Nat} {rest : List Char} (h : Nat.toDigits 10 n = '0' :: rest) :
    rest = [] := by
  induction n using Nat.strongRecOn generalizing rest with
  | ind n ih =>
    by_cases hlt : n < 10
    · rw [Nat.toDigits_of_lt_base hlt, List.cons.injEq] at h
      exact h.2.symm
    · rw [Nat.toDigits_eq_if (by decide), if_neg hlt, List.append_eq_cons_iff] at h
      obtain ⟨hnil, -⟩ | ⟨front, hfront, -⟩ := h
      · exact absurd hnil Nat.toDigits_ne_nil
      -- a leading zero would be all there is of the digits before the last, hence their value
      · have hzero := natOfDigits_toDigits (n / 10)
        rw [hfront, ih (n / 10) (by omega) hfront] at hzero
        change 0 = n / 10 at hzero
        omega

/-! ## Digits in a text -/

/-- A text that does not go on with a digit. -/
def StopsDigits (rest : List Char) : Prop := ∀ c ∈ rest.head?, isDigit c = false

theorem stopsDigits_cons {c : Char} {rest : List Char} (h : isDigit c = false) :
    StopsDigits (c :: rest) := by
  rintro _ ⟨⟩
  exact h

section
variable {digits rest : List Char} (hdigits : ∀ c ∈ digits, isDigit c = true)
include hdigits

theorem takeWhile_digits (hrest : StopsDigits rest) :
    (digits ++ rest).takeWhile isDigit = digits := by
  rw [List.takeWhile_append_of_pos hdigits]
  cases rest with
  | nil => exact List.append_nil _
  | cons c rest => rw [List.takeWhile_cons_of_neg (by simp [hrest c rfl]), List.append_nil]

theorem dropWhile_digits (hrest : StopsDigits rest) :
    (digits ++ rest).dropWhile isDigit = rest := by
  rw [List.dropWhile_append_of_pos hdigits]
  cases rest with
  | nil => rfl
  | cons c rest => exact List.dropWhile_cons_of_neg (by simp [hrest c rfl])

end

/-! ## Reading within a bound -/

theorem digit?_of_isDigit {c : Char} (h : isDigit c = true) :
    Integer.digit? c = some (c.toNat - 48) := by
  rw [isDigit, Bool.and_eq_true, decide_eq_true_eq, decide_eq_true_eq] at h
  rw [Integer.digit?, if_pos h]

theorem le_ofDigitChars (cs : List Char) (value : Nat) : value ≤ Nat.ofDigitChars 10 cs value := by
  rw [Nat.ofDigitChars_eq_ofDigitChars_zero]
  have hpos : 0 < 10 ^ cs.length := Nat.pow_pos (by decide)
  exact Nat.le_trans (Nat.le_mul_of_pos_left value hpos) (Nat.le_add_right ..)

theorem readDigits_eq_ok {bound value : Nat} {cs : List Char} (hdigits : ∀ c ∈ cs, isDigit c = true)
    (hbound : Nat.ofDigitChars 10 cs value ≤ bound) :
    Integer.readDigits bound value cs = .ok (Nat.ofDigitChars 10 cs value) := by
  induction cs generalizing value with
  | nil => rfl
  | cons c cs ih =>
    rw [ofDigitChars_step] at hbound ⊢
    have hle : value * 10 + (c.toNat - 48) ≤ bound := Nat.le_trans (le_ofDigitChars ..) hbound
    rw [Integer.readDigits, digit?_of_isDigit (hdigits c List.mem_cons_self)]
    show (if _ then _ else _) = _
    rw [if_neg (Nat.not_lt.2 hle)]
    exact ih (fun d hd => hdigits d (List.mem_cons_of_mem c hd)) hbound

/-- A number reads back from its decimal text. -/
theorem parse_toString {bound n : Nat} (h : n ≤ bound) :
    Integer.parse bound (toString n) = .ok n := by
  have hread : Integer.readDigits bound 0 (Nat.toDigits 10 n) = .ok n := by
    have hvalue : Nat.ofDigitChars 10 (Nat.toDigits 10 n) 0 = n :=
      Nat.ofDigitChars_toDigits (by decide) (by decide)
    rw [readDigits_eq_ok (fun c => isDigit_of_mem_toDigits) (by rwa [hvalue]), hvalue]
  rw [Integer.parse, Nat.toString_eq_ofList_toDigits, String.toList_ofList]
  split
  · rename_i hnil
    exact absurd hnil Nat.toDigits_ne_nil
  · rename_i hplus
    exact absurd (isDigit_of_mem_toDigits (n := n) (c := '+') (by simp [hplus])) (by decide)
  · rename_i hplus
    exact absurd (isDigit_of_mem_toDigits (n := n) (c := '+') (by simp [hplus])) (by decide)
  · exact hread

end TokenBridge.Decimal
