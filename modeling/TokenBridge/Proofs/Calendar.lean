import Mathlib.Tactic.IntervalCases
import TokenBridge.Instant

/-!
# Days and dates

A count of days is the count of the date that it is turned into (`toDays_ofDays`), and that date is
one of the calendar while the count is within its bounds (`isValid_ofDays`). Both follow from where
a day stands in its era of 400 years: in some year of it that starts in March, and on one of the
first 365 days of that year unless it ends with a leap day.
-/

namespace TokenBridge.CivilDate

/-- The years from March to March before a day of an era. -/
def yearOfEra (dayOfEra : Int) : Int :=
  (dayOfEra - dayOfEra / 1460 + dayOfEra / 36524 - dayOfEra / 146096) / 365

/-- The days of an era before such a year. -/
def daysBefore (year : Int) : Int := 365 * year + year / 4 - year / 100

/-- The date on a day of a year that starts in March, the days counted from zero. -/
def onDay (year dayOfYear : Int) : CivilDate :=
  let m := (5 * dayOfYear + 2) / 153
  let day := dayOfYear - (153 * m + 2) / 5 + 1
  let month := if m < 10 then m + 3 else m - 9
  ⟨if month ≤ 2 then year + 1 else year, month.toNat, day.toNat⟩

/-- A year of an era, and the days in it before some day. -/
structure Placed (year dayOfYear : Int) : Prop where
  year_nonneg : 0 ≤ year
  year_lt : year < 400
  day_nonneg : 0 ≤ dayOfYear
  day_le : dayOfYear ≤ 365
  leap : dayOfYear = 365 → isLeap (year + 1) = true

theorem isLeap_iff {year : Int} :
    isLeap year = true ↔ year % 4 = 0 ∧ (year % 100 ≠ 0 ∨ year % 400 = 0) := by
  simp [isLeap]

/-- A day by its century, the group of four years in the century and its place in the group. -/
theorem yearOfEra_eq {c q t : Int} (hc : 0 ≤ c ∧ c ≤ 3) (hq : 0 ≤ q ∧ q ≤ 24)
    (ht : 0 ≤ t ∧ t ≤ 1460) {d : Int} (hd : d = 36524 * c + 1461 * q + t)
    (hlt : d < 36524 * (c + 1)) : yearOfEra d = 100 * c + 4 * q + (t - t / 1460) / 365 := by
  have hcentury : d / 36524 = c := by omega
  have hera : d / 146096 = 0 := by omega
  have hgroup : d / 1460 = 25 * c + q + (24 * c + q + t) / 1460 := by omega
  rw [yearOfEra, hcentury, hera, hgroup]
  omega

theorem placed {d : Int} (hd : 0 ≤ d) (hlt : d < 146097) :
    Placed (yearOfEra d) (d - daysBefore (yearOfEra d)) := by
  by_cases hlast : d = 146096
  · subst hlast
    exact ⟨by decide, by decide, by decide, by decide, fun _ => by decide⟩
  · obtain ⟨c, q, t, hc, hq, ht, hsum, hcentury⟩ : ∃ c q t : Int, (0 ≤ c ∧ c ≤ 3) ∧
        (0 ≤ q ∧ q ≤ 24) ∧ (0 ≤ t ∧ t ≤ 1460) ∧ d = 36524 * c + 1461 * q + t ∧
        d < 36524 * (c + 1) :=
      ⟨d / 36524, d % 36524 / 1461, d % 36524 % 1461, by omega⟩
    obtain ⟨k, hk⟩ : ∃ k, (t - t / 1460) / 365 = k := ⟨_, rfl⟩
    have hyear : yearOfEra d = 100 * c + 4 * q + k := by
      rw [yearOfEra_eq hc hq ht hsum hcentury, hk]
    have hgroups : yearOfEra d / 4 = 25 * c + q := by omega
    have hcenturies : yearOfEra d / 100 = c := by omega
    have hday : d - daysBefore (yearOfEra d) = t - 365 * k := by
      rw [daysBefore, hgroups, hcenturies]
      omega
    refine ⟨by omega, by omega, by omega, by omega, fun h => isLeap_iff.2 ?_⟩
    have hlast : t = 1460 ∧ k = 3 ∧ q < 24 := by omega
    rw [hyear, hlast.2.1]
    omega

/-- A day of a year by its month, counted from March, and its place in the month. -/
theorem onDay_cases (year : Int) {dayOfYear : Int} (h : 0 ≤ dayOfYear) (hle : dayOfYear ≤ 365) :
    ∃ m day : Nat, m < 12 ∧ 1 ≤ day ∧ dayOfYear = (153 * m + 2) / 5 + day - 1 ∧
      5 * dayOfYear + 2 < 153 * (m + 1) ∧
      (m < 10 ∧ dayOfYear < 306 ∧ onDay year dayOfYear = ⟨year, m + 3, day⟩ ∨
        10 ≤ m ∧ 306 ≤ dayOfYear ∧ onDay year dayOfYear = ⟨year + 1, m - 9, day⟩) := by
  obtain ⟨m, hm⟩ : ∃ m : Nat, (5 * dayOfYear + 2) / 153 = m :=
    ⟨_, (Int.toNat_of_nonneg (by omega)).symm⟩
  obtain ⟨day, hday⟩ : ∃ day : Nat, dayOfYear - (153 * m + 2) / 5 + 1 = (day : Int) :=
    ⟨_, (Int.toNat_of_nonneg (by omega)).symm⟩
  refine ⟨m, day, by omega, by omega, by omega, by omega, ?_⟩
  by_cases hlt : m < 10
  · have hlt' : (m : Int) < 10 := by omega
    have hmonth : ¬ (m : Int) + 3 ≤ 2 := by omega
    refine .inl ⟨hlt, by omega, ?_⟩
    simp only [onDay, hm, hday, if_pos hlt', if_neg hmonth]
    rfl
  · have hlt' : ¬ (m : Int) < 10 := by omega
    have hmonth : (m : Int) - 9 ≤ 2 := by omega
    refine .inr ⟨by omega, by omega, ?_⟩
    simp only [onDay, hm, hday, if_neg hlt', if_pos hmonth]
    congr 1
    omega

theorem toDays_onDay (year : Int) {dayOfYear : Int} (h : 0 ≤ dayOfYear) (hle : dayOfYear ≤ 365) :
    (onDay year dayOfYear).toDays =
      365 * year + year / 4 - year / 100 + year / 400 + dayOfYear - 719468 := by
  obtain ⟨m, day, hm, hday, hplace, -, ⟨hlt, -, heq⟩ | ⟨hge, -, heq⟩⟩ := onDay_cases year h hle
  · have hyear : ¬ m + 3 ≤ 2 := by omega
    have hfirst : ((m + 3 : Nat) + 9 : Int) % 12 = m := by omega
    simp only [heq, toDays, if_neg hyear, hfirst]
    omega
  · have hyear : m - 9 ≤ 2 := by omega
    have hfirst : ((m - 9 : Nat) + 9 : Int) % 12 = m := by omega
    simp only [heq, toDays, if_pos hyear, hfirst]
    omega

/-- Where a count of days stands among the years that start in March. -/
theorem exists_onDay (days : Int) :
    ∃ year dayOfYear, ofDays days = onDay year dayOfYear ∧ 0 ≤ dayOfYear ∧ dayOfYear ≤ 365 ∧
      (dayOfYear = 365 → isLeap (year + 1) = true) ∧
      365 * year + year / 4 - year / 100 + year / 400 + dayOfYear - 719468 = days := by
  obtain ⟨era, hera⟩ : ∃ era, (days + 719468) / 146097 = era := ⟨_, rfl⟩
  obtain ⟨d, hd⟩ : ∃ d, (days + 719468) % 146097 = d := ⟨_, rfl⟩
  have h := placed (d := d) (by omega) (by omega)
  have heq : ofDays days = onDay (yearOfEra d + era * 400) (d - daysBefore (yearOfEra d)) := by
    rw [← hera, ← hd]
    rfl
  obtain ⟨y, hy⟩ : ∃ y, yearOfEra d = y := ⟨_, rfl⟩
  rw [hy] at h heq
  obtain ⟨hyear, hlt, hday, hle, hleap⟩ := h
  refine ⟨_, _, heq, hday, hle, fun hlast => ?_, ?_⟩
  · have := isLeap_iff.1 (hleap hlast)
    exact isLeap_iff.2 (by omega)
  · rw [daysBefore]
    omega

theorem toDays_ofDays (days : Int) : (ofDays days).toDays = days := by
  obtain ⟨year, dayOfYear, heq, hday, hle, -, hsum⟩ := exists_onDay days
  rw [heq, toDays_onDay year hday hle, hsum]

theorem onDay_isValid {year dayOfYear : Int} (h : 0 ≤ dayOfYear) (hle : dayOfYear ≤ 365)
    (hleap : dayOfYear = 365 → isLeap (year + 1) = true)
    (hrange : (onDay year dayOfYear).inRange = true) : (onDay year dayOfYear).isValid = true := by
  obtain ⟨m, day, hm, hday, hplace, hnext, ⟨hlt, -, heq⟩ | ⟨hge, -, heq⟩⟩ := onDay_cases year h hle
  · have hlast : day ≤ daysInMonth year (m + 3) := by
      interval_cases m <;> simp only [daysInMonth] <;> omega
    simp only [heq] at hrange ⊢
    simp only [isValid, hrange, Bool.true_and, Bool.and_eq_true, decide_eq_true_eq]
    omega
  · have hlast : day ≤ daysInMonth (year + 1) (m - 9) := by
      obtain rfl | rfl : m = 10 ∨ m = 11 := by omega
      · show day ≤ 31
        omega
      · show day ≤ if isLeap (year + 1) then 29 else 28
        by_cases hfull : dayOfYear = 365
        · rw [if_pos (hleap hfull)]
          omega
        · have hshort : day ≤ 28 := by omega
          split <;> omega
    simp only [heq] at hrange ⊢
    simp only [isValid, hrange, Bool.true_and, Bool.and_eq_true, decide_eq_true_eq]
    omega

theorem isValid_ofDays {days : Int} (hmin : Instant.minSeconds / 86400 ≤ days)
    (hmax : days ≤ Instant.maxSeconds / 86400) : (ofDays days).isValid = true := by
  have hmin' : -96465292 ≤ days := hmin
  have hmax' : days ≤ 95026236 := hmax
  obtain ⟨year, dayOfYear, heq, hday, hle, hleap, hsum⟩ := exists_onDay days
  rw [heq]
  refine onDay_isValid hday hle hleap ?_
  -- the year before the first and the year of the last date are told apart by their days alone
  have hfirst : year ≠ -262144 ∨ 306 ≤ dayOfYear := by
    by_contra hno
    obtain ⟨rfl, hshort⟩ : year = -262144 ∧ dayOfYear < 306 := by omega
    omega
  have hlast : year ≠ 262142 ∨ dayOfYear < 306 := by
    by_contra hno
    obtain ⟨rfl, hlong⟩ : year = 262142 ∧ 306 ≤ dayOfYear := by omega
    omega
  have hyears : -262144 ≤ year ∧ year ≤ 262142 := by omega
  obtain ⟨m, day, -, -, -, -, ⟨-, hpart, heq⟩ | ⟨-, hpart, heq⟩⟩ := onDay_cases year hday hle
  all_goals
    rw [heq, inRange, Bool.and_eq_true, decide_eq_true_eq, decide_eq_true_eq]
    dsimp only
    omega

theorem bounds_of_isValid {d : CivilDate} (h : d.isValid = true) :
    (1 ≤ d.month ∧ d.month ≤ 12) ∧ 1 ≤ d.day ∧ d.day ≤ 31 := by
  simp only [isValid, Bool.and_eq_true, decide_eq_true_eq] at h
  have hlast : daysInMonth d.year d.month ≤ 31 := by
    unfold daysInMonth
    split
    · split <;> decide
    all_goals decide
  omega

end TokenBridge.CivilDate
