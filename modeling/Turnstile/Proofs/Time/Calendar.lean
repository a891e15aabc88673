import Turnstile.Time.Civil
/-! Days and dates. Every day has a date that stands in the calendar, and the
date counts back to the day. -/
namespace Turnstile.Civil

def yearStart (y : Int) : Int := 365 * y + y / 4 - y / 100

-- A year has 366 days only before one that has a leap day in its second month.
theorem yearOfDay {e y : Int} (low : 0 ≤ e) (high : e < 146097)
    (year : y = (e - e / 1460 + e / 36524 - e / 146096) / 365) :
    0 ≤ y ∧ y ≤ 399 ∧ yearStart y ≤ e ∧ e ≤ yearStart y + 365 ∧
      (e = yearStart y + 365 → (y + 1) % 4 = 0 ∧ ((y + 1) % 100 ≠ 0 ∨ y = 399)) := by
  unfold yearStart
  have years : 0 ≤ y ∧ y ≤ 399 := by omega
  refine ⟨years.1, years.2, ?_⟩
  by_cases final : e = 146096
  · omega
  have short : e / 146096 = 0 := by omega
  rw [short] at year
  have centuries : e / 36524 = 0 ∨ e / 36524 = 1 ∨ e / 36524 = 2 ∨ e / 36524 = 3 := by omega
  have hundreds : y / 100 = 0 ∨ y / 100 = 1 ∨ y / 100 = 2 ∨ y / 100 = 3 := by omega
  have rests : y % 4 = 0 ∨ y % 4 = 1 ∨ y % 4 = 2 ∨ y % 4 = 3 := by omega
  obtain c | c | c | c := centuries <;> obtain h | h | h | h := hundreds <;>
    obtain r | r | r | r := rests <;> omega

theorem monthOfDay {t m : Int} (low : 0 ≤ t) (high : t ≤ 365) (month : m = (5 * t + 2) / 153) :
    0 ≤ m ∧ m ≤ 11 ∧ (153 * m + 2) / 5 ≤ t ∧ t < (153 * (m + 1) + 2) / 5 := by
  omega

structure Placed (days era y t m : Int) : Prop where
  day : days = era * 146097 + yearStart y + t - 719468
  year : 0 ≤ y ∧ y ≤ 399
  inYear : 0 ≤ t ∧ t ≤ 365
  leap : t = 365 → (y + 1) % 4 = 0 ∧ ((y + 1) % 100 ≠ 0 ∨ y = 399)
  month : 0 ≤ m ∧ m ≤ 11
  inMonth : (153 * m + 2) / 5 ≤ t ∧ t < (153 * (m + 1) + 2) / 5

-- The last two months belong to the next year of the calendar.
def dated (era y t m : Int) : Date :=
  if m < 10 then ⟨y + era * 400, (m + 3).toNat, (t - (153 * m + 2) / 5 + 1).toNat⟩
  else ⟨y + era * 400 + 1, (m - 9).toNat, (t - (153 * m + 2) / 5 + 1).toNat⟩

theorem placed (days : Int) : ∃ era y t m, Placed days era y t m ∧ ofDays days = dated era y t m := by
  have low : 0 ≤ (days + 719468) % 146097 := Int.emod_nonneg _ (by decide)
  have high : (days + 719468) % 146097 < 146097 := Int.emod_lt_of_pos _ (by decide)
  have whole := Int.ediv_mul_add_emod (days + 719468) 146097
  generalize era : (days + 719468) / 146097 = E at whole
  generalize day : (days + 719468) % 146097 = e at low high whole
  obtain ⟨first, last, start, stop, leap⟩ := yearOfDay low high rfl
  generalize year : (e - e / 1460 + e / 36524 - e / 146096) / 365 = y at first last start stop leap
  have inYear : 0 ≤ e - yearStart y ∧ e - yearStart y ≤ 365 := by omega
  obtain ⟨one, twelve, into, before⟩ := monthOfDay inYear.1 inYear.2 rfl
  refine ⟨E, y, e - yearStart y, (5 * (e - yearStart y) + 2) / 153, ?_, ?_⟩
  · exact ⟨by omega, ⟨first, last⟩, inYear, fun h => leap (by omega), ⟨one, twelve⟩, ⟨into, before⟩⟩
  · have spelled : e - (365 * y + y / 4 - y / 100) = e - yearStart y := rfl
    simp only [ofDays, era, day, year, spelled, dated]
    split
    · rw [if_neg (by omega)]
    · rw [if_pos (by omega)]

theorem toDaysOfDays (days : Int) : toDays (ofDays days) = days := by
  obtain ⟨era, y, t, m, at_, date⟩ := placed days
  obtain ⟨day, year, inYear, -, month, inMonth⟩ := at_
  have years : (y + era * 400) / 400 = era ∧ (y + era * 400) % 400 = y := by omega
  have start : (((t - (153 * m + 2) / 5 + 1).toNat : Nat) : Int) = t - (153 * m + 2) / 5 + 1 := by omega
  rw [date, day]
  unfold toDays dated yearStart
  split
  · rename_i early
    have march : (((m + 3).toNat : Int) + 9) % 12 = m := by omega
    dsimp only
    rw [if_neg (by omega), years.1, years.2, start, march]
    omega
  · rename_i late
    have march : (((m - 9).toNat : Int) + 9) % 12 = m := by omega
    dsimp only
    rw [if_pos (by omega), Int.add_sub_cancel, years.1, years.2, start, march]
    omega

theorem isLeapOf {year : Int} (four : year % 4 = 0) (hundred : year % 100 ≠ 0 ∨ year % 400 = 0) :
    isLeap year = true := by
  simpa [isLeap, four] using hundred

theorem validOfDays (days : Int) : valid (ofDays days) = true := by
  obtain ⟨era, y, t, m, at_, date⟩ := placed days
  obtain ⟨-, year, inYear, leap, month, inMonth⟩ := at_
  rw [date]
  have leapDay : t = 365 → isLeap (y + era * 400 + 1) = true := by
    intro last
    obtain ⟨four, hundred⟩ := leap last
    exact isLeapOf (by omega) (by omega)
  unfold dated
  split
  · rename_i early
    have months : m = 0 ∨ m = 1 ∨ m = 2 ∨ m = 3 ∨ m = 4 ∨ m = 5 ∨ m = 6 ∨ m = 7 ∨ m = 8 ∨ m = 9 := by
      omega
    rcases months with rfl | rfl | rfl | rfl | rfl | rfl | rfl | rfl | rfl | rfl <;>
      simp [valid, monthLength] at inMonth ⊢ <;> omega
  · rename_i late
    have months : m = 10 ∨ m = 11 := by omega
    rcases months with rfl | rfl
    · simp [valid, monthLength] at inMonth ⊢; omega
    · -- A year of 366 days ends with the leap day.
      by_cases last : t = 365
      · simp [valid, monthLength, leapDay last, last]
      · have short : (t - (153 * 11 + 2) / 5 + 1).toNat ≤ 28 := by omega
        simp [valid, monthLength] at inMonth short ⊢
        split <;> omega

theorem shortDate (days : Int) : (ofDays days).month ≤ 12 ∧ (ofDays days).day ≤ 31 := by
  have stands := validOfDays days
  simp only [valid, Bool.and_eq_true, decide_eq_true_eq] at stands
  refine ⟨stands.1.1.2, Nat.le_trans stands.2 ?_⟩
  unfold monthLength
  split
  · split <;> decide
  · split <;> decide

end Turnstile.Civil
