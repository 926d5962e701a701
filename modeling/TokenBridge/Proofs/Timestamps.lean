import TokenBridge.Proofs.Calendar
import TokenBridge.Proofs.Digits

/-!
# Written times

A time of the calendar that is no leap second reads back from its text (`ofRfc3339?_rfc3339`). Each
reader takes the part of the text that was written for it and leaves what comes behind, so the proof
goes through the text once from left to right.
-/

namespace TokenBridge.Instant

open Decimal (StopsDigits stopsDigits_cons)
open Decimal.Real (isDigit natOfDigits)

/-! ## Padded digits -/

theorem isDigit_of_mem_padded {width n : Nat} {c : Char} (h : c ∈ padded width n) :
    isDigit c = true := by
  obtain hzero | hdigit := List.mem_append.1 h
  · rw [List.eq_of_mem_replicate hzero]
    rfl
  · exact Decimal.isDigit_of_mem_toDigits hdigit

theorem natOfDigits_padded (width n : Nat) : natOfDigits (padded width n) = n := by
  have hzeros (k : Nat) (cs : List Char) :
      natOfDigits (List.replicate k '0' ++ cs) = natOfDigits cs := by
    induction k with
    | zero => rfl
    | succ k ih => exact ih
  rw [padded, hzeros, Decimal.natOfDigits_toDigits]

theorem length_padded {width n : Nat} (hwidth : 0 < width) (h : n < 10 ^ width) :
    (padded width n).length = width := by
  have hlen : (Nat.toDigits 10 n).length ≤ width :=
    (Nat.length_toDigits_le_iff (by decide) hwidth).2 h
  rw [padded, List.length_append, List.length_replicate, Nat.sub_add_cancel hlen]

/-- Padded digits are not nothing. -/
theorem padded_cons (width n : Nat) :
    ∃ c cs, padded width n = c :: cs ∧ isDigit c = true := by
  have hne : padded width n ≠ [] := fun h => Nat.toDigits_ne_nil (List.append_eq_nil_iff.1 h).2
  obtain ⟨c, cs, hcs⟩ := List.exists_cons_of_ne_nil hne
  exact ⟨c, cs, hcs, isDigit_of_mem_padded (hcs ▸ List.mem_cons_self)⟩

theorem isBlank_of_isDigit {c : Char} (h : isDigit c = true) : Text.isBlank c = false := by
  rw [isDigit, Bool.and_eq_true, decide_eq_true_eq, decide_eq_true_eq] at h
  have h' : 48 ≤ c.toNat ∧ c.toNat ≤ 57 := h
  simp only [Text.isBlank, Bool.or_eq_false_iff, Bool.and_eq_false_iff, decide_eq_false_iff_not,
    beq_eq_false_iff_ne]
  omega

/-! ## The readers of the parts -/

section
variable {α β : Type} {cs rest : List Char}

theorem bind_run {r : Reader α} {f : α → Reader β} {a : α} (h : r.run cs = some (a, rest)) :
    (r >>= f).run cs = (f a).run rest := by
  rw [StateT.run_bind, h]
  rfl

theorem discard_run {r : Reader α} {a : α} (h : r.run cs = some (a, rest)) :
    (discard r).run cs = some ((), rest) := by
  show (r.run cs >>= fun p => some ((), p.2)) = _
  rw [h]
  rfl

theorem number_run {most : Nat} {digits : List Char} (hdigits : ∀ c ∈ digits, isDigit c = true)
    (hne : digits ≠ []) (hlen : digits.length ≤ most) (hrest : StopsDigits rest) :
    (number most).run (digits ++ rest) = some (natOfDigits digits, rest) := by
  have htake : ((digits ++ rest).takeWhile isDigit).take most = digits := by
    rw [Decimal.takeWhile_digits hdigits hrest, List.take_of_length_le hlen]
  have hdrop : (digits ++ rest).drop digits.length = rest := List.drop_left
  have hsome : digits.isEmpty = false := by simpa using hne
  show (if (((digits ++ rest).takeWhile isDigit).take most).isEmpty then failure else _ :
    Reader Nat).run (digits ++ rest) = _
  rw [htake, hsome]
  show some (natOfDigits digits, (digits ++ rest).drop digits.length) = _
  rw [hdrop]

theorem number_run_padded {width most n : Nat} (hlen : (padded width n).length ≤ most)
    (hrest : StopsDigits rest) : (number most).run (padded width n ++ rest) = some (n, rest) := by
  obtain ⟨c, cs, hcs, -⟩ := padded_cons width n
  rw [number_run (fun _ => isDigit_of_mem_padded) (by simp [hcs]) hlen hrest, natOfDigits_padded]

theorem skipBlanks_run {c : Char} (h : Text.isBlank c = false) :
    skipBlanks.run (c :: rest) = some ((), c :: rest) := by
  show some ((), Text.trimStart (c :: rest)) = _
  rw [Text.trimStart, List.dropWhile_cons_of_neg (by simp [h])]

theorem skipBlanks_run_padded (width n : Nat) (rest : List Char) :
    skipBlanks.run (padded width n ++ rest) = some ((), padded width n ++ rest) := by
  obtain ⟨c, cs, hcs, hc⟩ := padded_cons width n
  rw [hcs]
  exact skipBlanks_run (isBlank_of_isDigit hc)

theorem field_run {low high n : Nat} (hlow : low ≤ n) (hhigh : n ≤ high) (htwo : n < 100)
    (hrest : StopsDigits rest) : (field low high).run (padded 2 n ++ rest) = some (n, rest) := by
  have hlen : (padded 2 n).length ≤ 2 := Nat.le_of_eq (length_padded (by decide) htwo)
  rw [field, bind_run (skipBlanks_run_padded 2 n rest), bind_run (number_run_padded hlen hrest),
    if_pos ⟨hlow, hhigh⟩]
  rfl

theorem mark_run {accepted : Char → Bool} {c : Char} (h : accepted c = true) :
    (discard (mark accepted)).run (c :: rest) = some ((), rest) := by
  refine discard_run (a := c) ?_
  show (if accepted c then _ else _ : Reader Char).run (c :: rest) = _
  rw [if_pos h]
  rfl

theorem separator_run {c : Char} (h : Text.isBlank c = false) :
    (separator c).run (c :: rest) = some ((), rest) := by
  rw [separator, bind_run (skipBlanks_run h)]
  exact mark_run (beq_self_eq_true c)

/-- A year of four digits has no sign. -/
theorem year_run_padded {n : Nat} (h : n < 10000) (hrest : StopsDigits rest) :
    year.run (padded 4 n ++ rest) = some ((n : Int), rest) := by
  obtain ⟨c, cs, hcs, hc⟩ := padded_cons 4 n
  have hget : (get : Reader (List Char)).run (padded 4 n ++ rest) =
      some (c :: (cs ++ rest), padded 4 n ++ rest) := by
    rw [hcs]
    rfl
  have hlen : (padded 4 n).length ≤ 4 := Nat.le_of_eq (length_padded (by decide) h)
  rw [year, bind_run (skipBlanks_run_padded 4 n rest), bind_run hget]
  split
  · rename_i hminus
    obtain ⟨rfl, -⟩ := List.cons.inj hminus
    cases hc
  · rename_i hplus
    obtain ⟨rfl, -⟩ := List.cons.inj hplus
    cases hc
  · rw [bind_run (number_run_padded hlen hrest)]
    rfl

theorem year_run (y : Int) (hrest : StopsDigits rest) :
    year.run (yearText y ++ rest) = some (y, rest) := by
  have hlen : (padded 4 y.natAbs).length ≤ (padded 4 y.natAbs ++ rest).length := by
    rw [List.length_append]
    exact Nat.le_add_right _ _
  have hskip {sign : Char} (hsign : Text.isBlank sign = false) :
      skipBlanks.run (sign :: (padded 4 y.natAbs ++ rest)) =
        some ((), sign :: (padded 4 y.natAbs ++ rest)) := skipBlanks_run hsign
  unfold yearText
  split
  · rw [year_run_padded (by omega) hrest, Int.toNat_of_nonneg (by omega)]
  rw [List.cons_append]
  split
  · rw [year, bind_run (hskip rfl)]
    show ((number (padded 4 y.natAbs ++ rest).length) >>= fun n => pure (-(n : Int))).run
      (padded 4 y.natAbs ++ rest) = _
    rw [bind_run (number_run_padded hlen hrest)]
    show some (-(y.natAbs : Int), rest) = _
    rw [Int.ofNat_natAbs_of_nonpos (by omega), Int.neg_neg]
  · rw [year, bind_run (hskip rfl)]
    show ((number (padded 4 y.natAbs ++ rest).length) >>= fun n => pure (n : Int)).run
      (padded 4 y.natAbs ++ rest) = _
    rw [bind_run (number_run_padded hlen hrest)]
    show some ((y.natAbs : Int), rest) = _
    rw [Int.natAbs_of_nonneg (by omega)]

/-- The digits behind a point, as many as are written. -/
theorem fraction_run_digits {width n : Nat} (hwidth : 0 < width) (hnine : width ≤ 9)
    (h : n < 10 ^ width) :
    fraction.run ('.' :: padded width n ++ 'Z' :: rest) =
      some (n * 10 ^ (9 - width), 'Z' :: rest) := by
  have hlen := length_padded hwidth h
  have hdigits : (padded width n ++ 'Z' :: rest).takeWhile isDigit = padded width n :=
    Decimal.takeWhile_digits (fun _ => isDigit_of_mem_padded) (stopsDigits_cons rfl)
  have hdrop : (padded width n ++ 'Z' :: rest).drop width = 'Z' :: rest := List.drop_left' hlen
  have htake : (padded width n).take 9 = padded width n :=
    List.take_of_length_le (Nat.le_of_eq hlen |>.trans hnine)
  have hsome : (padded width n).isEmpty = false := by
    obtain ⟨c, cs, hcs, -⟩ := padded_cons width n
    rw [hcs]
    rfl
  show (let digits := (padded width n ++ 'Z' :: rest).takeWhile isDigit
    if digits.isEmpty then failure else (do
      set ((padded width n ++ 'Z' :: rest).drop digits.length)
      let kept := digits.take 9
      return natOfDigits kept * Nat.pow 10 (9 - kept.length)) : Reader Nat).run _ = _
  simp only [hdigits, hsome, htake, natOfDigits_padded, hlen, hdrop]
  rfl

theorem fraction_run {nanos : Nat} (h : nanos < 1000000000) :
    fraction.run (fractionText nanos ++ 'Z' :: rest) = some (nanos, 'Z' :: rest) := by
  unfold fractionText
  split
  · rename_i hzero
    rw [hzero]
    rfl
  split
  · rw [fraction_run_digits (by decide) (by decide) (by omega)]
    show some (nanos / 1000000 * 1000000, _) = _
    rw [Nat.div_mul_cancel (Nat.dvd_of_mod_eq_zero ‹_›)]
  split
  · rw [fraction_run_digits (by decide) (by decide) (by omega)]
    show some (nanos / 1000 * 1000, _) = _
    rw [Nat.div_mul_cancel (Nat.dvd_of_mod_eq_zero ‹_›)]
  · rw [fraction_run_digits (by decide) (by decide) h, Nat.sub_self, Nat.pow_zero, Nat.mul_one]

theorem stopsDigits_fractionText (nanos : Nat) (rest : List Char) :
    StopsDigits (fractionText nanos ++ 'Z' :: rest) := by
  unfold fractionText
  split
  · exact stopsDigits_cons rfl
  split
  · exact stopsDigits_cons rfl
  split <;> exact stopsDigits_cons rfl

theorem offset_run : offset.run ('Z' :: rest) = some (0, rest) := rfl

end

/-- The parts of a valid date and of a time of day are read one after the other. -/
theorem reader_run {date : CivilDate} (hvalid : date.isValid = true)
    {hour minute second nanos : Nat} (hhour : hour ≤ 23) (hminute : minute ≤ 59)
    (hsecond : second ≤ 59) (hnanos : nanos < 1000000000) {seconds : Int}
    (hsum : date.toDays * 86400 + 3600 * hour + 60 * minute + second = seconds)
    (hmin : minSeconds ≤ seconds) (hmax : seconds ≤ maxSeconds) :
    reader.run (yearText date.year ++ '-' :: (padded 2 date.month ++ '-' :: (padded 2 date.day ++
      'T' :: (padded 2 hour ++ ':' :: (padded 2 minute ++ ':' :: (padded 2 second ++
        (fractionText nanos ++ ['Z']))))))) = some (⟨seconds, nanos⟩, []) := by
  obtain ⟨hmonth, hday⟩ := CivilDate.bounds_of_isValid hvalid
  -- the date
  rw [reader, bind_run (year_run date.year (stopsDigits_cons rfl)), bind_run (separator_run rfl),
    bind_run (field_run hmonth.1 hmonth.2 (by omega) (stopsDigits_cons rfl)),
    bind_run (separator_run rfl),
    bind_run (field_run hday.1 hday.2 (by omega) (stopsDigits_cons rfl)), bind_run (mark_run rfl)]
  -- the time of day
  rw [bind_run (field_run (Nat.zero_le _) hhour (by omega) (stopsDigits_cons rfl)),
    bind_run (separator_run rfl),
    bind_run (field_run (Nat.zero_le _) hminute (by omega) (stopsDigits_cons rfl)),
    bind_run (separator_run rfl),
    bind_run (field_run (Nat.zero_le _) (Nat.le_succ_of_le hsecond) (by omega)
      (stopsDigits_fractionText nanos [])),
    bind_run (fraction_run hnanos), bind_run offset_run]
  have hleap : (second == 60) = false := by
    rw [beq_eq_false_iff_ne]
    omega
  have hrange : ¬ (seconds < minSeconds ∨ maxSeconds < seconds) := by omega
  show (if _ then failure else _ : Reader Instant).run [] = _
  simp only [hleap, Bool.false_eq_true, ↓reduceIte, Int.sub_zero, hsum]
  rw [if_neg]
  · rfl
  · simpa [hvalid, Text.trimStart] using hrange

theorem ofRfc3339?_rfc3339 {t : Instant} (hmin : minSeconds ≤ t.seconds)
    (hmax : t.seconds ≤ maxSeconds) (hnanos : t.nanos < 1000000000) :
    ofRfc3339? t.rfc3339 = some t := by
  have hreader : reader.run (civilText 'T' t ++ ['Z']) = some (t, []) := by
    have hdate : (CivilDate.ofDays (t.seconds / 86400)).isValid = true :=
      CivilDate.isValid_ofDays (Int.ediv_le_ediv (by decide) hmin)
        (Int.ediv_le_ediv (by decide) hmax)
    have hdays := CivilDate.toDays_ofDays (t.seconds / 86400)
    have hleap : ¬ 1000000000 ≤ t.nanos := Nat.not_le.2 hnanos
    simp only [civilText, List.append_assoc, List.cons_append, if_neg hleap, Nat.add_zero,
      Nat.mod_eq_of_lt hnanos]
    refine reader_run hdate ?_ ?_ ?_ hnanos ?_ hmin hmax
    · omega
    · omega
    · omega
    · rw [hdays]
      omega
  rw [ofRfc3339?, rfc3339, String.toList_ofList, hreader]
  rfl

end TokenBridge.Instant
