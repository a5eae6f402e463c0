import PathTemplates.Calendar
import PathTemplates.Proofs.Outcome

/-! # Which times have a date

The days from the first of January of the year 1 to the last of December of the year 9999 have a date
(`Date.exists_ofDayNumber_iff`), and so have the seconds of these days (`Moment.exists_ofSeconds_iff`).
No other day or second has one. -/

namespace PathTemplates

namespace Date

/-- The year of an era that a day of it belongs to, by the first and the last years: the first has 365
days, and the last starts after 145731. -/
theorem yearOfEra_bounds {n y : Nat} (hn : n < 146097)
    (hy : y = (n - n / 1460 + n / 36524 - n / 146096) / 365) :
    y ≤ 399 ∧ (y = 0 ↔ n < 365) ∧ (y = 399 ↔ 145731 ≤ n) := by
  refine ⟨?_, ?_, ?_⟩ <;> omega

/-- The months of an era run from March, so the first two of a calendar year are the last two. -/
theorem month_le_two_iff {doy month : Nat} (hdoy : doy ≤ 365)
    (hmonth : month = if (5 * doy + 2) / 153 < 10 then (5 * doy + 2) / 153 + 3
      else (5 * doy + 2) / 153 - 9) :
    month ≤ 2 ↔ 306 ≤ doy := by
  split at hmonth <;> omega

/-- An era reaches from March of its first year to February of the year after its last. -/
theorem year_bounds {n y doy month : Nat} (hn : n < 146097)
    (hy : y = (n - n / 1460 + n / 36524 - n / 146096) / 365)
    (hdoy : doy = n - (365 * y + y / 4 - y / 100))
    (hmonth : month = if (5 * doy + 2) / 153 < 10 then (5 * doy + 2) / 153 + 3
      else (5 * doy + 2) / 153 - 9) :
    let year := y + if month ≤ 2 then 1 else 0
    year ≤ 400 ∧ (1 ≤ year ↔ 306 ≤ n) ∧ (year ≤ 399 ↔ n ≤ 146036) := by
  intro year
  obtain ⟨hle, hfirst, hlast⟩ := yearOfEra_bounds hn hy
  have hyear : year = y ∨ year = y + 1 := by
    by_cases h : month ≤ 2 <;> simp [year, h]
  by_cases hzero : y = 0
  · have hdoyFirst : doy = n := by
      rw [hdoy, hzero]
      omega
    have hwinter := month_le_two_iff (by omega) hmonth
    have hbump : year = 1 ↔ 306 ≤ n := by
      rw [← hdoyFirst, ← hwinter]
      by_cases h : month ≤ 2 <;> simp [year, h, hzero]
    omega
  · by_cases hend : y = 399
    · have hdoyLast : doy = n - 145731 := by rw [hdoy, hend]
      have hwinter := month_le_two_iff (by omega) hmonth
      have hbump : year = 400 ↔ 306 ≤ doy := by
        rw [← hwinter]
        by_cases h : month ≤ 2 <;> simp [year, h, hend]
      omega
    · -- in between the month does not matter
      omega

/-- The year of a day, by the era that the day belongs to and the day in it. -/
theorem exists_partsOfDayNumber_eq (days : Int) : ∃ (era : Int) (n y doy month : Nat),
    days + 719468 = 146097 * era + n ∧ n < 146097 ∧
    y = (n - n / 1460 + n / 36524 - n / 146096) / 365 ∧
    doy = n - (365 * y + y / 4 - y / 100) ∧
    (month = if (5 * doy + 2) / 153 < 10 then (5 * doy + 2) / 153 + 3
      else (5 * doy + 2) / 153 - 9) ∧
    (partsOfDayNumber days).1 = y + era * 400 + if month ≤ 2 then 1 else 0 := by
  have hdiv : (days + 719468).fdiv 146097 = (days + 719468) / 146097 :=
    Int.fdiv_eq_ediv_of_nonneg _ (by decide)
  have hmod : (days + 719468).fmod 146097 = (days + 719468) % 146097 :=
    Int.fmod_eq_emod_of_nonneg _ (by decide)
  refine ⟨(days + 719468).fdiv 146097, ((days + 719468).fmod 146097).toNat, _, _, _, ?_, ?_, rfl, rfl,
    rfl, rfl⟩
  · rw [hdiv, hmod]
    omega
  · rw [hmod]
    omega

/-- A day has a date exactly if it is one of the years 1 to 9999. -/
theorem exists_ofDayNumber_iff {days : Int} :
    (∃ d, ofDayNumber days = .ok d) ↔ -719162 ≤ days ∧ days ≤ 2932896 := by
  have hyear : (∃ d, ofDayNumber days = .ok d) ↔
      1 ≤ (partsOfDayNumber days).1 ∧ (partsOfDayNumber days).1 ≤ 9999 := by
    rw [ofDayNumber]
    rcases partsOfDayNumber days with ⟨year, month, day⟩
    have htest : (decide (1 ≤ year) && decide (year ≤ (maxYear : Int))) =
        decide (1 ≤ year ∧ year ≤ 9999) := (Bool.decide_and ..).symm
    simp only [htest]
    by_cases h : 1 ≤ year ∧ year ≤ 9999 <;> simp [h]
  obtain ⟨era, n, y, doy, month, hdays, hn, hy, hdoy, hmonth, hfst⟩ := exists_partsOfDayNumber_eq days
  obtain ⟨hle, hfirst, hlast⟩ := year_bounds hn hy hdoy hmonth
  rw [hyear, hfst]
  clear hyear hfst hy hdoy hmonth
  -- the first years are those of era 0, and the last ones those of era 24
  by_cases hwinter : month ≤ 2
  · simp only [hwinter, if_true] at *
    omega
  · simp only [hwinter, if_false] at *
    omega

end Date

namespace Moment

/-- A second of the years 1 to 9999. -/
def HasDate (seconds : Int) : Prop := -62135596800 ≤ seconds ∧ seconds ≤ 253402300799

instance (seconds : Int) : Decidable (HasDate seconds) := inferInstanceAs (Decidable (_ ∧ _))

/-- A second is that of a moment exactly if it has a date. -/
theorem exists_ofSeconds_iff {seconds : Int} : (∃ m, ofSeconds seconds = .ok m) ↔ HasDate seconds := by
  have hday : seconds.fdiv 86400 = seconds / 86400 := Int.fdiv_eq_ediv_of_nonneg _ (by decide)
  have hdate : (∃ m, ofSeconds seconds = .ok m) ↔ ∃ d, Date.ofDayNumber (seconds.fdiv 86400) = .ok d := by
    rw [ofSeconds]
    cases Date.ofDayNumber (seconds.fdiv 86400) <;> simp
  rw [hdate, Date.exists_ofDayNumber_iff, hday, HasDate]
  omega

end Moment

end PathTemplates
