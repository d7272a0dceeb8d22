import Triage.Time.Calendar

/-!
# Dates of day counts

The date of a day count exists, and counting its days gives the day count back.
The year is found by an estimate that is off by one at most; within the year the
months are passed one after the other.
-/

namespace Triage.Calendar

/-- Passing months cuts a day of the year into the days of the months passed and
a day of the month. -/
theorem add_monthOf (lengths : List Nat) (day : Nat) :
    (lengths.take (monthOf lengths day).1).foldr (fun days before => days + before) 0 +
      (monthOf lengths day).2 = day := by
  induction lengths generalizing day with
  | nil => simp [monthOf]
  | cons length rest ih =>
      rw [monthOf]
      split
      · simp
      · have later := ih (day - length)
        simp only [List.take_succ_cons, List.foldr_cons]
        omega

/-- A day within the months lies in one of them. -/
theorem monthOf_lt {lengths : List Nat} {day : Nat}
    (within : day < lengths.foldr (fun days before => days + before) 0) :
    (monthOf lengths day).1 < lengths.length ∧
      (monthOf lengths day).2 < lengths.getD (monthOf lengths day).1 0 := by
  induction lengths generalizing day with
  | nil => simp at within
  | cons length rest ih =>
      rw [monthOf]
      split
      · next inside => simpa using inside
      · next beyond =>
          simp only [List.foldr_cons] at within
          have left : day - length < rest.foldr (fun days before => days + before) 0 := by omega
          simpa using ih left

/-- The number of days in the months of a year. -/
def yearLength (leap : Bool) : Nat :=
  if leap then 366 else 365

@[simp] theorem foldr_monthLengths (leap : Bool) :
    (monthLengths leap).foldr (fun days before => days + before) 0 = yearLength leap := by
  cases leap <;> rfl

theorem isLeap_iff (year : Nat) :
    isLeap year = true ↔ year % 4 = 0 ∧ (year % 100 ≠ 0 ∨ year % 400 = 0) := by
  simp [isLeap]

/-- One more year. -/
theorem daysInYears_succ (years : Nat) :
    daysInYears (years + 1) = daysInYears years + yearLength (isLeap (years + 1)) := by
  have fewer : years / 100 ≤ years / 4 := Nat.div_le_div_left (by decide) (by decide)
  have multiple : (years + 1) % 100 = 0 → (years + 1) % 4 = 0 := by omega
  have centuries : (years + 1) % 400 = 0 → (years + 1) % 100 = 0 := by omega
  simp only [daysInYears, yearLength, isLeap_iff, Nat.succ_div, Nat.dvd_iff_mod_eq_zero]
  generalize years / 4 = leaps at *
  generalize years / 100 = left at *
  split <;> split <;> split <;> split <;> omega

theorem daysInYears_mono {first second : Nat} (le : first ≤ second) :
    daysInYears first ≤ daysInYears second := by
  induction le with
  | refl => exact Nat.le_refl _
  | step _ ih =>
      rw [daysInYears_succ]
      omega

/-- The day within its year is a day of one of the year's months. -/
theorem day_sub_lt (day : Nat) :
    day - daysInYears (yearsBefore day) <
      (monthLengths (isLeap (yearsBefore day + 1))).foldr (fun days before => days + before) 0 := by
  have starts := daysInYears_yearsBefore_le day
  have ends := lt_daysInYears_yearsBefore_succ day
  rw [daysInYears_succ] at ends
  rw [foldr_monthLengths]
  omega

@[simp] theorem length_monthLengths (leap : Bool) : (monthLengths leap).length = 12 := rfl

/-- The date of a day count exists. -/
theorem valid_dateOf (day : Nat) : (dateOf day).valid = true := by
  have place := monthOf_lt (day_sub_lt day)
  rw [length_monthLengths] at place
  simp only [Date.valid, Bool.and_eq_true, decide_eq_true_eq]
  simp only [dateOf, daysInMonth, Nat.add_sub_cancel, beq_iff_eq, Nat.add_eq_zero_iff,
    Nat.one_ne_zero, and_false, if_false]
  omega

/-- Counting the days up to the date of a day count gives the day count. -/
theorem dayCount_dateOf (day : Nat) :
    dayCount (dateOf day).year (dateOf day).month (dateOf day).day = day := by
  have starts := daysInYears_yearsBefore_le day
  have passed := add_monthOf (monthLengths (isLeap (yearsBefore day + 1)))
    (day - daysInYears (yearsBefore day))
  simp only [dayCount, daysBeforeMonth, dateOf, Nat.add_sub_cancel]
  omega

/-- Days before the year 10000 have years of four digits. -/
theorem year_dateOf_lt {day : Nat} (within : day < 3652059) : (dateOf day).year < 10000 := by
  have starts := daysInYears_yearsBefore_le day
  have late : ¬ 9999 ≤ yearsBefore day := by
    intro late
    have after := daysInYears_mono late
    have first : daysInYears 9999 = 3652059 := rfl
    omega
  simp only [dateOf]
  omega

theorem year_dateOf_pos (day : Nat) : 0 < (dateOf day).year :=
  Nat.succ_pos _

/-- Months and days of a date that exists have two digits at most. -/
theorem Date.lt_of_valid {date : Date} (valid : date.valid = true) :
    date.month < 100 ∧ date.day < 100 := by
  simp only [Date.valid, Bool.and_eq_true, decide_eq_true_eq] at valid
  have short : daysInMonth date.year date.month ≤ 31 := by
    unfold daysInMonth monthLengths
    split
    · omega
    · obtain ⟨⟨⟨first, last⟩, _⟩, _⟩ := valid
      generalize date.month - 1 = index
      match index with
      | 0 | 2 | 3 | 4 | 5 | 6 | 7 | 8 | 9 | 10 | 11 => simp
      | 1 => simp; split <;> omega
      | _ + 12 => simp
  omega

end Triage.Calendar
