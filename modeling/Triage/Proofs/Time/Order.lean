import Mathlib.Data.String.Basic
import Triage.Proofs.Number.Digits
import Triage.Proofs.Time.IsoText

/-!
# The order of written times

Times on the UTC clock are ordered as their texts are: every part in front of the
fraction has a fixed width, and the sign of the zone, which follows a time without
a fraction, comes before the point of a fraction.
-/

namespace Triage

open Text (padZeros asciiDigitValue isAsciiDigit toNat_of_isAsciiDigit foldl_digits_bounds)

/-! ## Dates -/

namespace Calendar

/-- One more month. -/
theorem foldr_take_succ (lengths : List Nat) (index : Nat) :
    (lengths.take (index + 1)).foldr (fun days before => days + before) 0 =
      (lengths.take index).foldr (fun days before => days + before) 0 +
        lengths.getD index 0 := by
  induction lengths generalizing index with
  | nil => simp
  | cons length rest ih =>
      cases index with
      | zero => simp
      | succ index =>
          rw [List.take_succ_cons, List.take_succ_cons, List.foldr_cons, List.foldr_cons, ih,
            List.getD_cons_succ]
          omega

theorem daysBeforeMonth_succ (year : Nat) {month : Nat} (positive : 0 < month) :
    daysBeforeMonth year (month + 1) = daysBeforeMonth year month + daysInMonth year month := by
  obtain ⟨index, rfl⟩ : ∃ index, month = index + 1 := ⟨month - 1, by omega⟩
  rw [daysBeforeMonth, daysBeforeMonth, daysInMonth, if_neg (by simp)]
  exact foldr_take_succ _ index

theorem daysBeforeMonth_mono (year : Nat) {first second : Nat} (positive : 0 < first)
    (le : first ≤ second) : daysBeforeMonth year first ≤ daysBeforeMonth year second := by
  induction le with
  | refl => exact Nat.le_refl _
  | step le ih =>
      rw [daysBeforeMonth_succ year (Nat.lt_of_lt_of_le positive le)]
      omega

/-- The order of dates by year, month and day. -/
def Date.Before (first second : Date) : Prop :=
  first.year < second.year ∨ first.year = second.year ∧
    (first.month < second.month ∨ first.month = second.month ∧ first.day < second.day)

/-- The day of a date that exists is one of its month and one of its year. -/
theorem Date.dayCount_lt {date : Date} (valid : date.valid = true) :
    daysBeforeMonth date.year date.month + (date.day - 1) <
        daysBeforeMonth date.year (date.month + 1) ∧
      daysBeforeMonth date.year (date.month + 1) ≤ yearLength (isLeap date.year) := by
  simp only [Date.valid, Bool.and_eq_true, decide_eq_true_eq] at valid
  obtain ⟨⟨⟨first, last⟩, positive⟩, inMonth⟩ := valid
  constructor
  · rw [daysBeforeMonth_succ _ first]
    omega
  · have whole : daysBeforeMonth date.year 13 = yearLength (isLeap date.year) :=
      foldr_monthLengths (isLeap date.year)
    rw [← whole]
    exact daysBeforeMonth_mono _ (Nat.succ_pos _) (by omega)

/-- An earlier date has a smaller day count. -/
theorem Date.Before.dayCount_lt {first second : Date} (before : first.Before second)
    (valid : first.valid = true) (later : second.valid = true) (positive : 0 < first.year) :
    dayCount first.year first.month first.day < dayCount second.year second.month second.day := by
  have within := Date.dayCount_lt valid
  simp only [Date.valid, Bool.and_eq_true, decide_eq_true_eq] at valid later
  simp only [dayCount]
  rcases before with earlierYear | ⟨sameYear, earlierMonth | ⟨sameMonth, earlierDay⟩⟩
  · have years : daysInYears first.year ≤ daysInYears (second.year - 1) :=
      daysInYears_mono (by omega)
    obtain ⟨index, known⟩ : ∃ index, first.year = index + 1 := ⟨first.year - 1, by omega⟩
    rw [known, daysInYears_succ, ← known] at years
    have previous : first.year - 1 = index := by omega
    rw [previous]
    omega
  · have months : daysBeforeMonth second.year (first.month + 1) ≤
        daysBeforeMonth second.year second.month :=
      daysBeforeMonth_mono second.year (Nat.succ_pos _) earlierMonth
    rw [sameYear] at within ⊢
    omega
  · rw [sameYear, sameMonth]
    omega

/-- Dates of day counts are ordered as the day counts. -/
theorem before_dateOf_iff {first second : Nat} :
    (dateOf first).Before (dateOf second) ↔ first < second := by
  have counted {first second : Nat} (before : (dateOf first).Before (dateOf second)) :
      first < second := by
    have days := before.dayCount_lt (valid_dateOf first) (valid_dateOf second)
      (year_dateOf_pos first)
    rwa [dayCount_dateOf, dayCount_dateOf] at days
  refine ⟨counted, fun less => ?_⟩
  by_contra unordered
  have sameOrLater : dateOf first = dateOf second ∨ (dateOf second).Before (dateOf first) := by
    generalize dateOf first = one at *
    generalize dateOf second = other at *
    obtain ⟨year, month, day⟩ := one
    obtain ⟨otherYear, otherMonth, otherDay⟩ := other
    simp only [Date.Before, Date.mk.injEq] at unordered ⊢
    omega
  rcases sameOrLater with same | later
  · have days := dayCount_dateOf first
    rw [same, dayCount_dateOf] at days
    omega
  · have := counted later
    omega

end Calendar

/-! ## Texts of fixed width -/

namespace Text

/-- Of texts with parts of one length in front, these parts decide first. -/
theorem append_lt_append_iff {front other rest tail : List Char}
    (sameLength : front.length = other.length) :
    front ++ rest < other ++ tail ↔ front < other ∨ front = other ∧ rest < tail := by
  induction front generalizing other with
  | nil =>
      rw [List.length_nil] at sameLength
      rw [List.length_eq_zero_iff.1 sameLength.symm]
      simp
  | cons character front ih =>
      cases other with
      | nil => simp at sameLength
      | cons character' other =>
          rw [List.cons_append, List.cons_append, List.cons_lt_cons_iff, List.cons_lt_cons_iff,
            ih (by simpa using sameLength), List.cons.injEq]
          constructor
          · rintro (less | ⟨same, less | ⟨equal, less⟩⟩)
            · exact .inl (.inl less)
            · exact .inl (.inr ⟨same, less⟩)
            · exact .inr ⟨⟨same, equal⟩, less⟩
          · rintro ((less | ⟨same, less⟩) | ⟨⟨same, equal⟩, less⟩)
            · exact .inl less
            · exact .inr ⟨same, .inl less⟩
            · exact .inr ⟨same, .inr ⟨equal, less⟩⟩

/-- A common first character decides nothing. -/
theorem cons_lt_cons_self_iff {character : Char} {rest tail : List Char} :
    character :: rest < character :: tail ↔ rest < tail := by
  rw [List.cons_lt_cons_iff]
  simp

/-- Digits of one number are ordered as their values. -/
theorem foldl_digits_lt {digits others : List Char}
    (every : ∀ character ∈ digits, isAsciiDigit character = true)
    (each : ∀ character ∈ others, isAsciiDigit character = true)
    (sameLength : digits.length = others.length) (less : digits < others) (known : Nat) :
    digits.foldl (fun value digit => value * 10 + asciiDigitValue digit) known <
      others.foldl (fun value digit => value * 10 + asciiDigitValue digit) known := by
  induction digits generalizing others known with
  | nil =>
      rw [List.eq_nil_of_length_eq_zero sameLength.symm] at less
      exact absurd less (List.lt_irrefl _)
  | cons digit digits ih =>
      cases others with
      | nil => simp at sameLength
      | cons digit' others =>
          have first := every digit List.mem_cons_self
          have rest : ∀ character ∈ digits, isAsciiDigit character = true :=
            fun character member => every character (by simp [member])
          have rest' : ∀ character ∈ others, isAsciiDigit character = true :=
            fun character member => each character (by simp [member])
          have tails : digits.length = others.length := by simpa using sameLength
          rw [List.foldl_cons, List.foldl_cons]
          rcases List.cons_lt_cons_iff.1 less with smaller | ⟨rfl, smaller⟩
          · have values : known * 10 + asciiDigitValue digit + 1 ≤
                known * 10 + asciiDigitValue digit' := by
              have smaller : digit.toNat < digit'.toNat := smaller
              have low := (toNat_of_isAsciiDigit first).1
              simp only [asciiDigitValue]
              omega
            have above := (foldl_digits_bounds rest (known * 10 + asciiDigitValue digit)).2
            have below := (foldl_digits_bounds rest' (known * 10 + asciiDigitValue digit')).1
            rw [← tails] at below
            exact Nat.lt_of_lt_of_le above
              (Nat.le_trans (Nat.mul_le_mul_right _ values) below)
          · exact ih rest rest' tails smaller _

theorem eq_of_padZeros_eq {width first second : Nat}
    (same : (padZeros width (toString first)).toList =
      (padZeros width (toString second)).toList) : first = second := by
  have values := congrArg
    (List.foldl (fun known digit => known * 10 + asciiDigitValue digit) 0) same
  rwa [foldl_padZeros, foldl_padZeros] at values

/-- Numbers filled with zeros to one width decide before what follows. -/
theorem padZeros_append_lt_iff {width first second : Nat} (positive : 0 < width)
    (fits : first < 10 ^ width) (fits' : second < 10 ^ width) {rest tail : List Char} :
    (padZeros width (toString first)).toList ++ rest <
        (padZeros width (toString second)).toList ++ tail ↔
      first < second ∨ first = second ∧ rest < tail := by
  have sameLength : (padZeros width (toString first)).toList.length =
      (padZeros width (toString second)).toList.length := by
    rw [length_toList_padZeros positive fits, length_toList_padZeros positive fits']
  have ordered {one other : Nat} (lengths : (padZeros width (toString one)).toList.length =
      (padZeros width (toString other)).toList.length)
      (less : (padZeros width (toString one)).toList < (padZeros width (toString other)).toList) :
      one < other := by
    have values := foldl_digits_lt (fun _ => isAsciiDigit_of_mem_padZeros)
      (fun _ => isAsciiDigit_of_mem_padZeros) lengths less 0
    rwa [foldl_padZeros, foldl_padZeros] at values
  rw [append_lt_append_iff sameLength]
  constructor
  · rintro (less | ⟨same, less⟩)
    · exact .inl (ordered sameLength less)
    · exact .inr ⟨eq_of_padZeros_eq same, less⟩
  · rintro (less | ⟨rfl, less⟩)
    · left
      rcases lt_trichotomy (padZeros width (toString first)).toList
        (padZeros width (toString second)).toList with before | same | after
      · exact before
      · exact absurd (eq_of_padZeros_eq same) less.ne
      · have := ordered sameLength.symm after
        omega
    · exact .inr ⟨rfl, less⟩

end Text

/-! ## Dates and times -/

namespace Timestamp

/-- Written dates decide before what follows, as the days do. -/
theorem dateText_append_lt_iff {first second : Nat} (within : first < limit)
    (within' : second < limit) {rest tail : List Char} :
    (dateText first).toList ++ rest < (dateText second).toList ++ tail ↔
      first / day < second / day ∨ first / day = second / day ∧ rest < tail := by
  have whole {wall : Nat} (within : wall < limit) : wall / day < 3652059 := by
    unfold limit at within
    unfold day
    omega
  have year := Calendar.year_dateOf_lt (whole within)
  have year' := Calendar.year_dateOf_lt (whole within')
  obtain ⟨month, date⟩ := Calendar.Date.lt_of_valid (Calendar.valid_dateOf (first / day))
  obtain ⟨month', date'⟩ := Calendar.Date.lt_of_valid (Calendar.valid_dateOf (second / day))
  have hyphen : "-".toList = ['-'] := rfl
  have sameDay : Calendar.dateOf (first / day) = Calendar.dateOf (second / day) ↔
      first / day = second / day := by
    constructor
    · intro same
      have counted := Calendar.dayCount_dateOf (first / day)
      rwa [same, Calendar.dayCount_dateOf, eq_comm] at counted
    · intro same
      rw [same]
  rw [← Calendar.before_dateOf_iff, ← sameDay]
  simp only [dateText, String.toList_append, List.append_assoc, hyphen, List.cons_append,
    List.nil_append]
  rw [Text.padZeros_append_lt_iff (by decide) year year', Text.cons_lt_cons_self_iff,
    Text.padZeros_append_lt_iff (by decide) month month', Text.cons_lt_cons_self_iff,
    Text.padZeros_append_lt_iff (by decide) date date']
  generalize Calendar.dateOf (first / day) = one
  generalize Calendar.dateOf (second / day) = other
  obtain ⟨oneYear, oneMonth, oneDay⟩ := one
  obtain ⟨otherYear, otherMonth, otherDay⟩ := other
  simp only [Calendar.Date.Before, Calendar.Date.mk.injEq]
  by_cases follows : rest < tail
  · simp only [follows, and_true]
    omega
  · simp only [follows, and_false, or_false]

theorem toList_fractionText {micros : Nat} (positive : micros ≠ 0) :
    (fractionText micros).toList = '.' :: (padZeros 6 (toString micros)).toList := by
  simp [fractionText, positive]

/-- A fraction decides before the sign of the zone: without one the sign comes
first. -/
theorem fractionText_append_lt_iff {first second : Nat} (fits : first < Timestamp.second)
    (fits' : second < Timestamp.second) (zone : List Char) :
    (fractionText first).toList ++ '+' :: zone < (fractionText second).toList ++ '+' :: zone ↔
      first < second := by
  have signFirst : '+' < '.' := by decide
  have none : (fractionText 0).toList = [] := rfl
  by_cases zero : first = 0
  · by_cases zero' : second = 0
    · subst zero zero'
      simp
    · rw [zero, none, List.nil_append, toList_fractionText zero', List.cons_append,
        List.cons_lt_cons_iff]
      simp only [signFirst, true_or, true_iff]
      omega
  · by_cases zero' : second = 0
    · rw [zero', none, List.nil_append, toList_fractionText zero, List.cons_append,
        List.cons_lt_cons_iff]
      have notBefore : ¬ ('.' < '+') := by decide
      have different : '.' ≠ '+' := by decide
      simp [notBefore, different]
    · rw [toList_fractionText zero, toList_fractionText zero', List.cons_append,
        List.cons_append, Text.cons_lt_cons_self_iff,
        Text.padZeros_append_lt_iff (by decide) fits fits']
      simp

/-- Written times of day with the same zone are ordered as the times. -/
theorem timeText_append_lt_iff {first second : Nat} (zone : List Char) :
    (timeText first).toList ++ '+' :: zone < (timeText second).toList ++ '+' :: zone ↔
      first % day < second % day := by
  have colon : ":".toList = [':'] := rfl
  have text (wall : Nat) : timeText wall =
      padZeros 2 (toString (wall % day / Timestamp.second / 3600)) ++ ":" ++
        padZeros 2 (toString (wall % day / Timestamp.second / 60 % 60)) ++ ":" ++
        padZeros 2 (toString (wall % day / Timestamp.second % 60)) ++
        fractionText (wall % Timestamp.second) := rfl
  have hour (wall : Nat) : wall % day / Timestamp.second / 3600 < 10 ^ 2 := by
    unfold day Timestamp.second
    omega
  have sixty (value : Nat) : value % 60 < 10 ^ 2 := by omega
  have micros (wall : Nat) : wall % Timestamp.second < Timestamp.second :=
    Nat.mod_lt _ (by decide)
  rw [text, text]
  simp only [String.toList_append, List.append_assoc, colon, List.cons_append, List.nil_append]
  rw [Text.padZeros_append_lt_iff (by decide) (hour first) (hour second),
    Text.cons_lt_cons_self_iff, Text.padZeros_append_lt_iff (by decide) (sixty _) (sixty _),
    Text.cons_lt_cons_self_iff, Text.padZeros_append_lt_iff (by decide) (sixty _) (sixty _),
    fractionText_append_lt_iff (micros first) (micros second)]
  unfold day Timestamp.second
  omega

/-- Times on the UTC clock are ordered as their texts. -/
theorem isoText_lt_iff {first second : Timestamp} (utc : first.offset = some 0)
    (utc' : second.offset = some 0) :
    first.isoText < second.isoText ↔ first.instant < second.instant := by
  obtain ⟨wall, offset, bound⟩ := first
  obtain ⟨wall', offset', bound'⟩ := second
  cases utc
  cases utc'
  have separator : "T".toList = ['T'] := rfl
  have zone : (offsetText 0).toList = '+' :: "00:00".toList := rfl
  rw [String.lt_iff_toList_lt, instant_utc, instant_utc, Int.ofNat_lt]
  simp only [isoText, String.toList_append, separator, zone, List.append_assoc,
    List.cons_append, List.nil_append]
  rw [dateText_append_lt_iff bound bound', Text.cons_lt_cons_self_iff, timeText_append_lt_iff]
  unfold day
  omega

/-- The texts of times on the UTC clock are the same only at the same instant. -/
theorem isoText_eq_iff {first second : Timestamp} (utc : first.offset = some 0)
    (utc' : second.offset = some 0) :
    first.isoText = second.isoText ↔ first.instant = second.instant := by
  have forward := isoText_lt_iff utc utc'
  have backward := isoText_lt_iff utc' utc
  constructor
  · intro same
    rw [same] at forward backward
    simp only [lt_irrefl, false_iff, not_lt] at forward backward
    exact le_antisymm backward forward
  · intro same
    rw [same] at forward backward
    simp only [lt_irrefl, iff_false, not_lt] at forward backward
    exact le_antisymm backward forward

end Timestamp

end Triage
