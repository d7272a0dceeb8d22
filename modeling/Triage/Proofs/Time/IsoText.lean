import Mathlib.Algebra.Group.Nat.Defs
import Triage.Proofs.Time.Calendar
import Triage.Schema.Field

/-!
# Reading back written times

The text of a time on the UTC clock is read as that time by the schema of fields.
Each part of the text has a fixed width, so that each reader stops where the next
part begins.
-/

namespace Triage

open Text (padZeros isAsciiDigit asciiDigitValue)

/-! ## Digits -/

theorem isAsciiDigit_of_isDigit {character : Char} (digit : character.isDigit = true) :
    isAsciiDigit character = true := by
  simp only [Char.isDigit, Bool.and_eq_true, decide_eq_true_eq] at digit
  simp only [isAsciiDigit, Bool.and_eq_true, decide_eq_true_eq]
  exact ⟨digit.1, digit.2⟩

/-- The characters of a number filled with zeros. -/
theorem toList_padZeros (width value : Nat) :
    (padZeros width (toString value)).toList =
      List.replicate (width - (Nat.toDigits 10 value).length) '0' ++ Nat.toDigits 10 value := by
  simp [padZeros, Nat.repr_eq_ofList_toDigits]

/-- A number of at most `width` digits fills the width exactly. -/
theorem length_toList_padZeros {width value : Nat} (positive : 0 < width)
    (fits : value < 10 ^ width) : (padZeros width (toString value)).toList.length = width := by
  have short := (Nat.length_toDigits_le_iff (by decide) positive).2 fits
  rw [toList_padZeros, List.length_append, List.length_replicate]
  omega

theorem isAsciiDigit_of_mem_padZeros {width value : Nat} {character : Char}
    (member : character ∈ (padZeros width (toString value)).toList) :
    isAsciiDigit character = true := by
  rw [toList_padZeros, List.mem_append] at member
  rcases member with zero | digit
  · rw [List.eq_of_mem_replicate zero]
    rfl
  · exact isAsciiDigit_of_isDigit (Nat.isDigit_of_mem_toDigits (by decide) (by decide) digit)

/-- Digits are read as the standard reader of digits reads them. -/
theorem foldl_digits (digits : List Char) (known : Nat) :
    digits.foldl (fun value digit => value * 10 + asciiDigitValue digit) known =
      Nat.ofDigitChars 10 digits known := by
  simp only [Nat.ofDigitChars_eq_foldl, asciiDigitValue, Nat.mul_comm]
  rfl

/-- The value of the digits of a number filled with zeros. -/
theorem foldl_padZeros (width value : Nat) :
    (padZeros width (toString value)).toList.foldl
      (fun known digit => known * 10 + asciiDigitValue digit) 0 = value := by
  rw [foldl_digits, toList_padZeros, Nat.ofDigitChars_append, Nat.ofDigitChars_replicate_zero,
    Nat.mul_zero, Nat.ofDigitChars_ten_toDigits]

namespace Timestamp

/-- Digits in front are read up to their number. -/
theorem takeDigits?_append {digits : List Char}
    (every : ∀ character ∈ digits, isAsciiDigit character = true) (known : Nat)
    (rest : List Char) :
    takeDigits? digits.length known (digits ++ rest) =
      some (digits.foldl (fun value digit => value * 10 + asciiDigitValue digit) known, rest) := by
  induction digits generalizing known with
  | nil => rfl
  | cons digit digits ih =>
      have first := every digit (by simp)
      have later := ih (fun character member => every character (by simp [member]))
        (known * 10 + asciiDigitValue digit)
      simpa [takeDigits?, first] using later

/-- A number filled with zeros is read from the front of a text. -/
theorem takeDigits?_padZeros {width value : Nat} (positive : 0 < width)
    (fits : value < 10 ^ width) (rest : List Char) :
    takeDigits? width 0 ((padZeros width (toString value)).toList ++ rest) =
      some (value, rest) := by
  have every : ∀ character ∈ (padZeros width (toString value)).toList,
      isAsciiDigit character = true := fun _ => isAsciiDigit_of_mem_padZeros
  have taken := takeDigits?_append every 0 rest
  rwa [length_toList_padZeros positive fits, foldl_padZeros] at taken

@[simp] theorem takeChar?_cons (character : Char) (rest : List Char) :
    takeChar? character (character :: rest) = some rest := by
  simp [takeChar?]

/-! ## Dates and times of day -/

/-- A written date is read from the front of a text. -/
theorem takeDate?_dateText {wall : Nat} (within : wall < limit) (rest : List Char) :
    takeDate? ((dateText wall).toList ++ rest) = some (Calendar.dateOf (wall / day), rest) := by
  have whole : wall / day < 3652059 := by
    unfold limit at within
    unfold day
    omega
  have valid := Calendar.valid_dateOf (wall / day)
  have year := Calendar.year_dateOf_lt whole
  obtain ⟨month, date⟩ := Calendar.Date.lt_of_valid valid
  have hyphen : "-".toList = ['-'] := rfl
  simp only [dateText, String.toList_append, List.append_assoc, hyphen, takeDate?,
    List.cons_append, List.nil_append, Option.bind_eq_bind]
  rw [takeDigits?_padZeros (by decide) year, Option.bind_some, takeChar?_cons,
    Option.bind_some, takeDigits?_padZeros (by decide) month, Option.bind_some, takeChar?_cons,
    Option.bind_some, takeDigits?_padZeros (by decide) date, Option.bind_some, if_pos valid]

/-- Fraction digits are read up to the sign of a zone. -/
theorem takeFraction?_digits {digits : List Char} (some_digit : digits ≠ [])
    (every : ∀ character ∈ digits, isAsciiDigit character = true) (rest : List Char) :
    takeFraction? ('.' :: (digits ++ '+' :: rest)) =
      some (fractionMicros digits, '+' :: rest) := by
  have stops : isAsciiDigit '+' = false := rfl
  have taken : (digits ++ '+' :: rest).takeWhile isAsciiDigit = digits := by
    rw [List.takeWhile_append_of_pos every, List.takeWhile_cons_of_neg (by simp [stops]),
      List.append_nil]
  have left : (digits ++ '+' :: rest).dropWhile isAsciiDigit = '+' :: rest := by
    rw [List.dropWhile_append_of_pos every, List.dropWhile_cons_of_neg (by simp [stops])]
  cases digits with
  | nil => contradiction
  | cons first others =>
      simp only [takeFraction?, taken, left]
      rfl

/-- The fraction of a second of a written time. -/
def fractionText (micros : Nat) : String :=
  if micros == 0 then "" else "." ++ padZeros 6 (toString micros)

/-- The fraction of a written time is read, and nothing of the zone behind it. -/
theorem takeFraction?_fractionText {micros : Nat} (fits : micros < second) (rest : List Char) :
    takeFraction? ((fractionText micros).toList ++ '+' :: rest) = some (micros, '+' :: rest) := by
  by_cases none : micros = 0
  · subst none
    rfl
  · have six : (padZeros 6 (toString micros)).toList.length = 6 :=
      length_toList_padZeros (by decide) fits
    have value : fractionMicros (padZeros 6 (toString micros)).toList = micros := by
      rw [fractionMicros, List.take_of_length_le (by omega), foldl_padZeros, six]
      exact Nat.mul_one micros
    have written : (fractionText micros).toList = '.' :: (padZeros 6 (toString micros)).toList := by
      simp [fractionText, none]
    rw [written, List.cons_append, takeFraction?_digits _ fun _ => isAsciiDigit_of_mem_padZeros,
      value]
    exact List.ne_nil_of_length_pos (by omega)

/-- A written time of day is read, and nothing of the zone behind it. -/
theorem takeTime?_timeText (wall : Nat) (rest : List Char) :
    takeTime? ((timeText wall).toList ++ '+' :: rest) = some (wall % day, '+' :: rest) := by
  have colon : ":".toList = [':'] := rfl
  have total : ((wall % day / second / 3600 * 60 + wall % day / second / 60 % 60) * 60 +
      wall % day / second % 60) * second + wall % second = wall % day := by
    unfold day second
    omega
  have hour : wall % day / second / 3600 < 24 := by
    unfold day second
    omega
  have minute : wall % day / second / 60 % 60 < 60 := Nat.mod_lt _ (by decide)
  have seconds : wall % day / second % 60 < 60 := Nat.mod_lt _ (by decide)
  have micros : wall % second < second := Nat.mod_lt _ (by decide)
  have text : timeText wall = padZeros 2 (toString (wall % day / second / 3600)) ++ ":" ++
      padZeros 2 (toString (wall % day / second / 60 % 60)) ++ ":" ++
      padZeros 2 (toString (wall % day / second % 60)) ++ fractionText (wall % second) := rfl
  simp only [text, String.toList_append, List.append_assoc, colon, takeTime?,
    List.cons_append, List.nil_append, Option.bind_eq_bind]
  rw [takeDigits?_padZeros (by decide) (by omega), Option.bind_some, takeChar?_cons,
    Option.bind_some, takeDigits?_padZeros (by decide) (by omega), Option.bind_some,
    if_neg (by simp only [Bool.or_eq_true, decide_eq_true_eq]; omega)]
  simp only []
  rw [takeDigits?_padZeros (by decide) (by omega), Option.bind_some, if_neg (by omega),
    takeFraction?_fractionText micros, Option.bind_some, total]

/-- The date and the time of day of a clock reading make it up. -/
theorem ofParts_dateOf {wall : Nat} (bound : wall < 3652059 * 86400000000) :
    ofParts (Calendar.dateOf (wall / day)) (wall % day) (some 0) =
      .time ⟨wall, some 0, bound⟩ := by
  have year := Calendar.year_dateOf_pos (wall / day)
  have whole : wallOf (Calendar.dateOf (wall / day)) (wall % day) = wall := by
    rw [wallOf, Calendar.dayCount_dateOf]
    unfold day
    omega
  have known : ofWall? wall (some 0) = some ⟨wall, some 0, bound⟩ := by
    rw [ofWall?, dif_pos (by omega)]
    rfl
  rw [ofParts, if_neg (by simp; omega), whole, known]

/-- A written time on the UTC clock is read as that time. -/
theorem ofFieldText_isoText {time : Timestamp} (utc : time.offset = some 0) :
    ofFieldText time.isoText = .time time := by
  obtain ⟨wall, offset, bound⟩ := time
  cases utc
  have separator : "T".toList = ['T'] := rfl
  have zone : (offsetText 0).toList = '+' :: "00:00".toList := rfl
  have utc : readZone? ('+' :: "00:00".toList) = some (some 0) := rfl
  have read : readDateTime? readZone?
      (isoText ⟨wall, some 0, bound⟩).toList = some (.time ⟨wall, some 0, bound⟩) := by
    simp only [isoText, String.toList_append, separator, zone, List.append_assoc,
      List.cons_append, List.nil_append, readDateTime?, Option.bind_eq_bind]
    rw [takeDate?_dateText bound, Option.bind_some]
    simp only [isSeparator, beq_self_eq_true, Bool.true_or, if_true]
    rw [takeTime?_timeText, Option.bind_some, utc, Option.bind_some, ofParts_dateOf bound]
  simp only [ofFieldText, read]

end Timestamp

namespace Schema

/-- The schema reads a written time on the UTC clock as that time. -/
@[simp] theorem time_isoText {value : Timestamp} (utc : value.offset = some 0) :
    time (.str value.isoText) = .valid value := by
  simp only [time, Timestamp.ofFieldText_isoText utc, time.ofReading]

end Schema

end Triage
