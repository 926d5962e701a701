import Mathlib.Data.List.Induction
import TokenBridge.Proofs.Instruction

/-!
# Totals of relay instructions

Three sums are kept side by side, and a list fails at the first instruction that takes one of them
past its word. Sums only grow, so a list fails exactly if one of its whole sums does not fit
(`exists_totals_iff`), wherever the instructions stand. The order has no say in the totals
(`totals_perm`), and the totals of two lists one after the other are those of the first and of the
second added up (`totals_append_eq_ok`).
-/

namespace TokenBridge

/-- `t` is `a` and `b` added up, without overflow. -/
structure RelayTotals.IsSum (t a b : RelayTotals) : Prop where
  gasLimit : t.gasLimit.toNat = a.gasLimit.toNat + b.gasLimit.toNat
  msgValue : t.msgValue.toNat = a.msgValue.toNat + b.msgValue.toNat
  dropOff : t.dropOff.toNat = a.dropOff.toNat + b.dropOff.toNat

namespace RelayInstruction

variable {is js : List RelayInstruction} {i : RelayInstruction} {t : RelayTotals} {err : Error}

/-- The three whole sums are words of 128 bits. -/
structure SumsFit (is : List RelayInstruction) : Prop where
  gasLimit : (is.map gasUnits).sum < 2 ^ 128
  msgValue : (is.map valueUnits).sum < 2 ^ 128
  dropOff : (is.map dropOffUnits).sum < 2 ^ 128

theorem exists_totals_iff : (∃ t, totals is = .ok t) ↔ SumsFit is := by
  simp only [totals_eq_ok]
  constructor
  · rintro ⟨t, hgas, hvalue, hdrop⟩
    exact ⟨hgas ▸ t.gasLimit.isLt, hvalue ▸ t.msgValue.isLt, hdrop ▸ t.dropOff.isLt⟩
  · rintro ⟨hgas, hvalue, hdrop⟩
    obtain ⟨gas, hgas⟩ := Wide.exists_toNat hgas
    obtain ⟨value, hvalue⟩ := Wide.exists_toNat hvalue
    obtain ⟨drop, hdrop⟩ := Wide.exists_toNat hdrop
    exact ⟨⟨gas, value, drop⟩, hgas, hvalue, hdrop⟩

theorem totals_perm (h : is.Perm js) : totals is = .ok t ↔ totals js = .ok t := by
  simp only [totals_eq_ok, (h.map _).sum_nat]

theorem SumsFit.of_append (h : SumsFit (is ++ js)) : SumsFit is ∧ SumsFit js := by
  obtain ⟨hgas, hvalue, hdrop⟩ := h
  simp only [List.map_append, List.sum_append] at hgas hvalue hdrop
  constructor <;> constructor <;> omega

theorem totals_append_eq_ok : totals (is ++ js) = .ok t ↔
    ∃ a b, totals is = .ok a ∧ totals js = .ok b ∧ t.IsSum a b := by
  constructor
  · intro h
    obtain ⟨his, hjs⟩ := (exists_totals_iff.1 ⟨t, h⟩).of_append
    obtain ⟨a, ha⟩ := exists_totals_iff.2 his
    obtain ⟨b, hb⟩ := exists_totals_iff.2 hjs
    refine ⟨a, b, ha, hb, ?_⟩
    obtain ⟨hgas, hvalue, hdrop⟩ := totals_eq_ok.1 h
    obtain ⟨hgasA, hvalueA, hdropA⟩ := totals_eq_ok.1 ha
    obtain ⟨hgasB, hvalueB, hdropB⟩ := totals_eq_ok.1 hb
    simp only [List.map_append, List.sum_append] at hgas hvalue hdrop
    exact ⟨by omega, by omega, by omega⟩
  · rintro ⟨a, b, ha, hb, hgas, hvalue, hdrop⟩
    obtain ⟨hgasA, hvalueA, hdropA⟩ := totals_eq_ok.1 ha
    obtain ⟨hgasB, hvalueB, hdropB⟩ := totals_eq_ok.1 hb
    refine totals_eq_ok.2 ?_
    simp only [List.map_append, List.sum_append]
    exact ⟨by omega, by omega, by omega⟩

/-! ## Refusals -/

/-- The error names a sum of the list that does not fit. -/
inductive NamesExcess (is : List RelayInstruction) : Error → Prop where
  | gasLimit : 2 ^ 128 ≤ (is.map gasUnits).sum → NamesExcess is (.overflow "total gas limit")
  | msgValue : 2 ^ 128 ≤ (is.map valueUnits).sum → NamesExcess is (.overflow "total msg value")
  | dropOff : 2 ^ 128 ≤ (is.map dropOffUnits).sum → NamesExcess is (.overflow "total drop-off")

theorem sum_le_sum_append (units : RelayInstruction → Nat) (is js : List RelayInstruction) :
    (is.map units).sum ≤ ((is ++ js).map units).sum := by
  rw [List.map_append, List.sum_append]
  exact Nat.le_add_right _ _

/-- What is too large stays too large when more instructions follow. -/
theorem NamesExcess.append (h : NamesExcess is err) (js : List RelayInstruction) :
    NamesExcess (is ++ js) err := by
  cases h with
  | gasLimit h => exact .gasLimit (Nat.le_trans h (sum_le_sum_append ..))
  | msgValue h => exact .msgValue (Nat.le_trans h (sum_le_sum_append ..))
  | dropOff h => exact .dropOff (Nat.le_trans h (sum_le_sum_append ..))

theorem addWide_eq_error {what : String} {a b : Wide} :
    addWide what a b = .error err ↔ 2 ^ 128 ≤ a.toNat + b.toNat ∧ .overflow what = err := by
  have hsize : Wide.size = 2 ^ 128 := rfl
  unfold addWide Wide.add?
  by_cases h : a.toNat + b.toNat < Wide.size
  · rw [if_pos h]
    exact ⟨nofun, fun hno => absurd h (by omega)⟩
  · rw [if_neg h, Except.error.injEq]
    exact ⟨fun heq => ⟨by omega, heq⟩, And.right⟩

theorem totals_concat (is : List RelayInstruction) (i : RelayInstruction) :
    totals (is ++ [i]) = totals is >>= fun t => addTo t i := by
  simp [totals, List.foldlM_append]

theorem namesExcess_of_addTo (ht : totals is = .ok t) (h : addTo t i = .error err) :
    NamesExcess (is ++ [i]) err := by
  obtain ⟨hgas, hvalue, hdrop⟩ := totals_eq_ok.1 ht
  cases i with
  | gas gasLimit msgValue =>
    simp only [addTo, bind_eq_error, addWide_eq_error, pure_eq_error, and_false, exists_false,
      or_false] at h
    rcases h with ⟨hlarge, rfl⟩ | ⟨_, -, hlarge, rfl⟩
    · refine .gasLimit ?_
      simpa [gasUnits, ← hgas] using hlarge
    · refine .msgValue ?_
      simpa [valueUnits, ← hvalue] using hlarge
  | dropOff value recipient =>
    simp only [addTo, bind_eq_error, addWide_eq_error, pure_eq_error, and_false, exists_false,
      or_false] at h
    obtain ⟨hlarge, rfl⟩ := h
    refine .dropOff ?_
    simpa [dropOffUnits, ← hdrop] using hlarge

/-- A list is refused for a sum that is too large, and for nothing else. -/
theorem namesExcess_of_totals (h : totals is = .error err) : NamesExcess is err := by
  induction is using List.reverseRecOn with
  | nil => cases h
  | append_singleton is i ih =>
    rw [totals_concat, bind_eq_error] at h
    rcases h with h | ⟨t, ht, h⟩
    · exact (ih h).append [i]
    · exact namesExcess_of_addTo ht h

/-- **Totals are exact sums.** A list has totals if its three sums over the naturals are words, and
only then; the totals are these sums, and a refusal names one that is too large. So the instructions
may stand in any order, and two lists in a row have totals exactly if both have and these add up
to words. -/
theorem totals_exact :
    (∀ is, (∃ t, totals is = .ok t) ↔ SumsFit is) ∧
    (∀ is t, totals is = .ok t ↔ t.gasLimit.toNat = (is.map gasUnits).sum ∧
      t.msgValue.toNat = (is.map valueUnits).sum ∧ t.dropOff.toNat = (is.map dropOffUnits).sum) ∧
    (∀ is err, totals is = .error err → NamesExcess is err) ∧
    (∀ is js, is.Perm js → ∀ t, totals is = .ok t ↔ totals js = .ok t) ∧
    ∀ is js t, totals (is ++ js) = .ok t ↔
      ∃ a b, totals is = .ok a ∧ totals js = .ok b ∧ t.IsSum a b :=
  ⟨fun _ => exists_totals_iff, fun _ _ => totals_eq_ok, fun _ _ => namesExcess_of_totals,
    fun _ _ h _ => totals_perm h, fun _ _ _ => totals_append_eq_ok⟩

/-- The drop-off moves to the front, and the totals stay. A gas limit of one more than fits is
refused. -/
theorem totals_exact_sample :
    let is := [gas 200000 10, dropOff 7 .zero, gas 300000 5]
    let js := [dropOff 7 .zero, gas 200000 10, gas 300000 5]
    let large := [gas (.allOnes 128) 0, gas 1 0]
    is.Perm js ∧ totals is = .ok ⟨500000, 15, 7⟩ ∧ totals js = .ok ⟨500000, 15, 7⟩ ∧
      totals large = .error (.overflow "total gas limit") ∧
      NamesExcess large (.overflow "total gas limit") := by
  intro is js large
  have hperm : is.Perm js := .swap ..
  have his : totals is = .ok ⟨500000, 15, 7⟩ := rfl
  have hlarge : totals large = .error (.overflow "total gas limit") := rfl
  obtain ⟨-, -, hrefused, hany, -⟩ := totals_exact
  exact ⟨hperm, his, (hany is js hperm _).1 his, hlarge, hrefused _ _ hlarge⟩

/-- Of two sums that are too large, the order of the instructions decides which one is named. -/
example :
    totals [gas (.allOnes 128) (.allOnes 128), gas 1 0, gas 0 1] =
        .error (.overflow "total gas limit") ∧
      totals [gas (.allOnes 128) (.allOnes 128), gas 0 1, gas 1 0] =
        .error (.overflow "total msg value") := ⟨rfl, rfl⟩

end RelayInstruction

end TokenBridge
