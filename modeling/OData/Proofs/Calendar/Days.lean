import Mathlib.Algebra.Ring.Nat
import OData.Calendar.Date

/-!
# Days and their dates

Every day, however far from year 0, has a date that the calendar knows (`isValid_ofDay`). The days
before a year of a period of 400 years are counted in closed form (`daysBeforeYear_succ`), which
is close enough to 366 days a year that one correction finds the year of a day
(`yearOfPeriod_spec`); the months are then gone through one by one.
-/

namespace OData.Date

/-! ## Years of a period -/

theorem isLeap_period (period : Int) (y : Nat) : isLeap (400 * period + y) = isLeap y := by
  unfold isLeap
  have four : (400 * period + y) % 4 = (y : Int) % 4 := by omega
  have hundred : (400 * period + y) % 100 = (y : Int) % 100 := by omega
  have whole : (400 * period + y) % 400 = (y : Int) % 400 := by omega
  rw [four, hundred, whole]

def daysInYear (leap : Bool) : Nat := if leap then 366 else 365

/-- A year of a period starts where the one before it ends. -/
theorem daysBeforeYear_succ (y : Nat) :
    daysBeforeYear (y + 1) = daysBeforeYear y + daysInYear (isLeap y) := by
  have four : (y + 1 + 3) / 4 = (y + 3) / 4 + if y % 4 = 0 then 1 else 0 := by
    split <;> omega
  have hundred : (y + 1 + 99) / 100 = (y + 99) / 100 + if y % 100 = 0 then 1 else 0 := by
    split <;> omega
  have whole : (y + 1 + 399) / 400 = (y + 399) / 400 + if y % 400 = 0 then 1 else 0 := by
    split <;> omega
  have fewer : (y + 99) / 100 ≤ 365 * y + (y + 3) / 4 := by omega
  have leap : isLeap y = true ↔ y % 4 = 0 ∧ (y % 100 ≠ 0 ∨ y % 400 = 0) := by
    simp only [isLeap, Bool.and_eq_true, Bool.or_eq_true, decide_eq_true_eq, bne_iff_ne]
    omega
  simp only [daysBeforeYear, daysInYear, leap]
  rw [four, hundred, whole]
  by_cases h : y % 4 = 0 <;> by_cases h' : y % 100 = 0 <;> by_cases h'' : y % 400 = 0 <;>
    simp only [h, h', h'', ne_eq, not_true_eq_false, not_false_eq_true, true_and, false_and,
      or_true, or_false, if_true, if_false] <;> omega

theorem yearOfPeriod_spec {n : Nat} (h : n < daysPerPeriod) :
    daysBeforeYear (yearOfPeriod n) ≤ n ∧ n < daysBeforeYear (yearOfPeriod n + 1) := by
  unfold yearOfPeriod daysPerPeriod at *
  dsimp only
  -- A year has at most 366 days, and the first guess is at most one year behind.
  have behind : daysBeforeYear (n / 366) ≤ n := by unfold daysBeforeYear; omega
  have close : n < daysBeforeYear (n / 366 + 2) := by unfold daysBeforeYear; omega
  split
  · next later => exact ⟨later, close⟩
  · next here => exact ⟨behind, Nat.lt_of_not_le here⟩

/-! ## Months of a year -/

theorem sum_monthLengths (leap : Bool) : (monthLengths leap).sum = daysInYear leap := by
  cases leap <;> rfl

/-- Going through the months, a day within their sum ends up in one of them. -/
theorem monthDay_spec (month : Nat) {lengths : List Nat} {n : Nat} (h : n < lengths.sum) :
    ∃ i length, lengths[i]? = some length ∧ (monthDay month lengths n).1 = month + i ∧
      1 ≤ (monthDay month lengths n).2 ∧ (monthDay month lengths n).2 ≤ length := by
  induction lengths generalizing month n with
  | nil => cases h
  | cons length lengths ih =>
    rw [monthDay]
    split
    · next within => exact ⟨0, length, rfl, rfl, Nat.le_add_left 1 n, within⟩
    · next beyond =>
      rw [List.sum_cons] at h
      obtain ⟨i, length', found, name, day⟩ := ih (month + 1) (n := n - length) (by omega)
      exact ⟨i + 1, length', found, by rw [name]; omega, day⟩

theorem isValid_ofDay (n : Int) : (ofDay n).isValid := by
  unfold ofDay
  dsimp only
  generalize n / daysPerPeriod = period
  have within : (n % daysPerPeriod).toNat < daysPerPeriod := by unfold daysPerPeriod; omega
  generalize (n % daysPerPeriod).toNat = day at within
  obtain ⟨start, stop⟩ := yearOfPeriod_spec within
  generalize yearOfPeriod day = y at start stop
  rw [daysBeforeYear_succ] at stop
  rw [isLeap_period]
  have ofYear : day - daysBeforeYear y < (monthLengths (isLeap y)).sum := by
    rw [sum_monthLengths]
    omega
  obtain ⟨i, length, found, name, first, last⟩ := monthDay_spec 1 ofYear
  generalize monthDay 1 (monthLengths (isLeap y)) (day - daysBeforeYear y) = d at name first last
  obtain ⟨month, day'⟩ := d
  obtain rfl : month = 1 + i := name
  simp only [isValid, isLeap_period, Nat.add_sub_cancel_left, found]
  simpa using ⟨first, last⟩

/-- The bounds that a date has. -/
theorem bounds_of_isValid {d : Date} (h : d.isValid) : d.month ≤ 12 ∧ d.day ≤ 31 := by
  simp only [isValid, Bool.and_eq_true, decide_eq_true_eq] at h
  obtain ⟨⟨first, -⟩, named⟩ := h
  split at named
  · next length found =>
    obtain ⟨within, rfl⟩ := List.getElem?_eq_some_iff.1 found
    have longest : ∀ leap, ∀ length ∈ monthLengths leap, length ≤ 31 := by decide
    have short := longest _ _ (List.getElem_mem within)
    have twelve : (monthLengths (isLeap d.year)).length = 12 := rfl
    rw [decide_eq_true_eq] at named
    omega
  · cases named

end OData.Date
