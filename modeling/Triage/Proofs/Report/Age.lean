import Triage.Proofs.Number.Rounding
import Triage.Report.Age

/-!
# Accuracy and order of ages

An age is the whole number of the greatest unit that suits, rounded down, of the seconds
that have passed.  Each unit is used from a whole number of it on, so that an older time
never shows a smaller age.  The seconds are rounded to a floating-point number first, which
matters only for times that are so little short of a whole number of years that rounding
makes up for it.
-/

namespace Triage

namespace Report

/-! ## Tables of units -/

/-- The size and the symbol of the unit for a number of seconds, by a table of all units but
the greatest. -/
def unitIn (units : List AgeUnit) (greatest : Nat × String) (seconds : Nat) : Nat × String :=
  match units.find? fun unit => seconds < unit.limit with
  | some unit => (unit.size, unit.symbol)
  | none => greatest

/-- A table for seconds from a start on, in which each unit is used from a multiple of its
size on. -/
def Aligned (start : Nat) : List AgeUnit → Nat × String → Prop
  | [], greatest => greatest.1 ∣ start
  | unit :: rest, greatest =>
      unit.size ∣ start ∧ start ≤ unit.limit ∧ Aligned unit.limit rest greatest

instance decidableAligned (start : Nat) (units : List AgeUnit) (greatest : Nat × String) :
    Decidable (Aligned start units greatest) :=
  match units with
  | [] => inferInstanceAs (Decidable (_ ∣ _))
  | unit :: rest =>
      have := decidableAligned unit.limit rest greatest
      inferInstanceAs (Decidable (_ ∧ _ ∧ _))

section Tables

variable {units : List AgeUnit} {greatest : Nat × String} {start seconds : Nat}

theorem unitIn_cons (unit : AgeUnit) (units : List AgeUnit) (greatest : Nat × String)
    (seconds : Nat) :
    unitIn (unit :: units) greatest seconds =
      if seconds < unit.limit then (unit.size, unit.symbol)
      else unitIn units greatest seconds := by
  rw [unitIn, List.find?_cons]
  by_cases within : seconds < unit.limit <;> simp [within, unitIn]

/-- The unit for some seconds is used from a multiple of its size on. -/
theorem exists_first_use (aligned : Aligned start units greatest) (after : start ≤ seconds) :
    ∃ first, start ≤ first ∧ first ≤ seconds ∧ (unitIn units greatest seconds).1 ∣ first ∧
      ∀ earlier, first ≤ earlier → earlier ≤ seconds →
        unitIn units greatest earlier = unitIn units greatest seconds := by
  induction units generalizing start with
  | nil => exact ⟨start, le_rfl, after, aligned, fun _ _ _ => rfl⟩
  | cons unit rest ih =>
      obtain ⟨whole, ordered, aligned⟩ := aligned
      rw [unitIn_cons]
      split
      · next within =>
          refine ⟨start, le_rfl, after, whole, fun earlier _ before => ?_⟩
          rw [unitIn_cons, if_pos (by omega)]
      · next beyond =>
          obtain ⟨first, later, before, multiple, used⟩ := ih aligned (Nat.le_of_not_lt beyond)
          refine ⟨first, ordered.trans later, before, multiple, fun earlier from_ till => ?_⟩
          rw [unitIn_cons, if_neg (by omega), used earlier from_ till]

end Tables

/-! ## Numbers of units -/

/-- A number of units of age; a unit is its size in seconds and its symbol. -/
structure CountedAge where
  count : Nat
  unit : Nat × String
  deriving DecidableEq, Repr

/-- All units of age. -/
def allUnits : List (Nat × String) :=
  ageUnits.map (fun unit => (unit.size, unit.symbol)) ++ [year]

namespace CountedAge

/-- The seconds that the units make. -/
def seconds (age : CountedAge) : Nat :=
  age.count * age.unit.1

/-- The number and the symbol of the unit. -/
def text (age : CountedAge) : String :=
  toString age.count ++ age.unit.2

/-- The whole units in some seconds. -/
def ofSeconds (seconds : Nat) : CountedAge :=
  ⟨seconds / (ageUnit seconds).1, ageUnit seconds⟩

/-- An age in one of the units that are used, rounded down from some seconds.  It is none
only of the least unit. -/
structure Accurate (age : CountedAge) (seconds : Nat) : Prop where
  known : age.unit ∈ allUnits
  le : age.count * age.unit.1 ≤ seconds
  lt : seconds < (age.count + 1) * age.unit.1
  zero : age.count = 0 → age.text = "0s"

variable {first second : Nat}

theorem aligned_ageUnits : Aligned 60 ageUnits.tail year := by decide

/-- After the first minute each unit is used from a multiple of its size on. -/
theorem exists_first_use_ageUnit (minute : 60 ≤ second) :
    ∃ start, 60 ≤ start ∧ start ≤ second ∧ (ageUnit second).1 ∣ start ∧
      ∀ earlier, start ≤ earlier → earlier ≤ second → ageUnit earlier = ageUnit second := by
  obtain ⟨start, least, before, whole, used⟩ := exists_first_use aligned_ageUnits minute
  have later {seconds : Nat} (beyond : 60 ≤ seconds) :
      ageUnit seconds = unitIn ageUnits.tail year seconds :=
    (unitIn_cons ⟨60, 1, "s"⟩ ageUnits.tail year seconds).trans (if_neg (Nat.not_lt.2 beyond))
  rw [later minute]
  refine ⟨start, least, before, whole, fun earlier after till => ?_⟩
  rw [later (least.trans after), used earlier after till]

theorem ageUnit_of_lt (within : second < 60) : ageUnit second = (1, "s") :=
  (unitIn_cons ⟨60, 1, "s"⟩ ageUnits.tail year second).trans (if_pos within)

theorem ageUnit_mem (seconds : Nat) : ageUnit seconds ∈ allUnits := by
  rw [ageUnit, allUnits, List.mem_append]
  split
  · next unit found =>
      exact .inl (List.mem_map_of_mem (List.mem_of_find?_eq_some found))
  · exact .inr (List.mem_singleton_self year)

theorem size_pos {unit : Nat × String} (known : unit ∈ allUnits) : 0 < unit.1 := by
  have every : ∀ unit ∈ allUnits, 0 < unit.1 := by decide
  exact every unit known

/-- The whole units in some seconds are an accurate age. -/
theorem accurate_ofSeconds (seconds : Nat) : (ofSeconds seconds).Accurate seconds where
  known := ageUnit_mem seconds
  le := Nat.div_mul_le_self _ _
  lt := by
    rw [Nat.succ_mul]
    exact Nat.lt_div_mul_add (size_pos (ageUnit_mem seconds))
  zero := by
    intro none
    rcases Nat.lt_or_ge seconds 60 with within | minute
    · have unit := ageUnit_of_lt within
      simp only [ofSeconds, unit, Nat.div_one] at none
      subst none
      rfl
    · -- a unit that is used from a positive multiple on occurs in the seconds
      obtain ⟨start, least, before, whole, -⟩ := exists_first_use_ageUnit minute
      have size := Nat.le_of_dvd (by omega) whole
      have some : 0 < seconds / (ageUnit seconds).1 :=
        Nat.div_pos (size.trans before) (size_pos (ageUnit_mem seconds))
      exact absurd none some.ne'

/-- More seconds make no smaller age, also where the unit changes. -/
theorem seconds_ofSeconds_mono (le : first ≤ second) :
    (ofSeconds first).seconds ≤ (ofSeconds second).seconds := by
  have same (equal : ageUnit first = ageUnit second) :
      (ofSeconds first).seconds ≤ (ofSeconds second).seconds := by
    rw [ofSeconds, ofSeconds, equal]
    exact Nat.mul_le_mul_right _ (Nat.div_le_div_right le)
  rcases Nat.lt_or_ge second 60 with within | minute
  · exact same ((ageUnit_of_lt (by omega)).trans (ageUnit_of_lt within).symm)
  · obtain ⟨start, -, before, whole, used⟩ := exists_first_use_ageUnit minute
    rcases Nat.lt_or_ge first start with smaller | since
    · -- the start of the greater unit lies between the two ages
      calc (ofSeconds first).seconds ≤ first := (accurate_ofSeconds first).le
        _ ≤ start := smaller.le
        _ = start / (ageUnit second).1 * (ageUnit second).1 := (Nat.div_mul_cancel whole).symm
        _ ≤ (ofSeconds second).seconds := Nat.mul_le_mul_right _ (Nat.div_le_div_right before)
    · exact same (used first since le)

theorem toList_text (age : CountedAge) :
    age.text.toList = Nat.toDigits 10 age.count ++ age.unit.2.toList := by
  simp [text, Nat.repr_eq_ofList_toDigits]

theorem takeWhile_isDigit_text {age : CountedAge} (known : age.unit ∈ allUnits) :
    age.text.toList.takeWhile Char.isDigit = Nat.toDigits 10 age.count := by
  have symbols : ∀ unit ∈ allUnits, unit.2.toList.takeWhile Char.isDigit = [] := by decide
  have digits : ∀ digit ∈ Nat.toDigits 10 age.count, digit.isDigit = true :=
    fun _ => Nat.isDigit_of_mem_toDigits (by decide) (by decide)
  rw [toList_text, List.takeWhile_append_of_pos digits, symbols _ known, List.append_nil]

/-- The text of an age tells the number and the unit. -/
theorem eq_of_text_eq {age other : CountedAge} (known : age.unit ∈ allUnits)
    (known' : other.unit ∈ allUnits) (same : age.text = other.text) : age = other := by
  have digits : Nat.toDigits 10 age.count = Nat.toDigits 10 other.count := by
    rw [← takeWhile_isDigit_text known, same, takeWhile_isDigit_text known']
  have count : age.count = other.count := by
    rw [← Nat.ofDigitChars_ten_toDigits (n := age.count), digits, Nat.ofDigitChars_ten_toDigits]
  have symbol : age.unit.2 = other.unit.2 := by
    have lists := congrArg String.toList same
    rw [toList_text, toList_text, digits] at lists
    exact String.toList_inj.1 (List.append_cancel_left lists)
  have units : ∀ unit ∈ allUnits, ∀ other ∈ allUnits, unit.2 = other.2 → unit = other := by
    decide
  have unit : age.unit = other.unit := units _ known _ known' symbol
  cases age
  cases other
  simp only at count unit
  rw [count, unit]

end CountedAge

/-! ## Elapsed seconds -/

/-- The microseconds from one time to a later one, none if it is not later. -/
def elapsedMicros (now time : Timestamp) : Nat :=
  (now.instant - time.instant).toNat

/-- The whole seconds from one time to a later one, none if it is not later. -/
def wholeSeconds (now time : Timestamp) : Nat :=
  elapsedMicros now time / Timestamp.second

/-- What is missing to the next whole second is lost when the seconds are rounded to a
floating-point number. -/
def RoundsUp (now time : Timestamp) : Prop :=
  Binary64.NearNext (elapsedMicros now time) Timestamp.second
    (52 - Nat.log2 (wholeSeconds now time))

instance (now time : Timestamp) : Decidable (RoundsUp now time) :=
  inferInstanceAs (Decidable (Binary64.NearNext _ _ _))

/-- Rounding the seconds completes a year. -/
def CompletesYear (now time : Timestamp) : Prop :=
  RoundsUp now time ∧ year.1 ∣ wholeSeconds now time + 1

instance (now time : Timestamp) : Decidable (CompletesYear now time) :=
  inferInstanceAs (Decidable (_ ∧ _))

end Report

/-- The clock of a time is less than a day ahead of UTC or behind it. -/
def Timestamp.NearUtc (time : Timestamp) : Prop :=
  (time.offset.getD 0).natAbs < Timestamp.day

instance (time : Timestamp) : Decidable time.NearUtc :=
  inferInstanceAs (Decidable (_ < _))

namespace Report

variable {now time : Timestamp}

/-- Times of the calendar are not too far apart for whole seconds. -/
theorem wholeSeconds_lt (near : now.NearUtc) (near' : time.NearUtc) :
    wholeSeconds now time < 2 ^ 52 := by
  have bound := now.wall_lt
  rw [wholeSeconds, Nat.div_lt_iff_lt_mul (by decide)]
  simp only [Timestamp.NearUtc, Timestamp.day] at near near'
  simp only [elapsedMicros, Timestamp.instant, Timestamp.second]
  omega

theorem elapsedSeconds_eq (near : now.NearUtc) (near' : time.NearUtc) :
    elapsedSeconds now time =
      if RoundsUp now time then wholeSeconds now time + 1 else wholeSeconds now time := by
  have bounded := wholeSeconds_lt near near'
  have rounded := Binary64.truncate?_ofRatio (by decide) (by decide) bounded
  change (((Binary64.ofRatio false (elapsedMicros now time) Timestamp.second).truncate?).getD
    0).toNat = _
  rw [rounded]
  rfl

/-- Seconds are only rounded up after centuries. -/
theorem RoundsUp.le (rounds : RoundsUp now time) : 2 ^ 34 ≤ wholeSeconds now time := by
  by_contra recent
  have log : Nat.log2 (wholeSeconds now time) < 34 := by
    rcases Nat.eq_zero_or_pos (wholeSeconds now time) with none | some
    · rw [none, Nat.log2_zero]
      decide
    · exact (Nat.log2_lt some.ne').2 (Nat.lt_of_not_le recent)
  have rest := Nat.mod_lt (elapsedMicros now time) (by decide : 0 < Timestamp.second)
  have units : 2 ^ 20 ≤ 2 ^ (52 - Nat.log2 (wholeSeconds now time) + 1) :=
    Nat.pow_le_pow_right (by decide) (by omega)
  have missing := Nat.le_mul_of_pos_right (2 ^ (52 - Nat.log2 (wholeSeconds now time) + 1))
    (Nat.sub_pos_of_lt rest)
  have most : Timestamp.second < 2 ^ 20 := by decide
  rw [RoundsUp, Binary64.NearNext] at rounds
  omega

theorem ageUnit_of_centuries {seconds : Nat} (centuries : 2 ^ 34 ≤ seconds) :
    ageUnit seconds = year := by
  have beyond : ∀ unit ∈ ageUnits, unit.limit ≤ 2 ^ 34 := by decide
  have none : (ageUnits.find? fun unit => decide (seconds < unit.limit)) = none := by
    rw [List.find?_eq_none]
    intro unit member
    have limit := beyond unit member
    simp only [decide_eq_true_eq]
    omega
  rw [ageUnit, none]

/-- The age of a time has the whole seconds that have passed, or one more if this completes a
year. -/
theorem age_eq (near : now.NearUtc) (near' : time.NearUtc) :
    age now (some time) = (CountedAge.ofSeconds (if CompletesYear now time
      then wholeSeconds now time + 1 else wholeSeconds now time)).text := by
  change (CountedAge.ofSeconds (elapsedSeconds now time)).text = _
  rw [elapsedSeconds_eq near near']
  by_cases rounds : RoundsUp now time
  · by_cases whole : year.1 ∣ wholeSeconds now time + 1
    · rw [if_pos rounds, if_pos ⟨rounds, whole⟩]
    · have centuries := rounds.le
      rw [if_pos rounds, if_neg fun completes => whole completes.2, CountedAge.ofSeconds,
        CountedAge.ofSeconds, ageUnit_of_centuries centuries,
        ageUnit_of_centuries (centuries.trans (Nat.le_succ _)), Nat.succ_div_of_not_dvd whole]
  · rw [if_neg rounds, if_neg fun completes => rounds completes.1]

/-- Times on clocks near UTC, between which the seconds are not rounded up to a whole number
of years. -/
structure Fair (now time : Timestamp) : Prop where
  nowNear : now.NearUtc
  timeNear : time.NearUtc
  incomplete : ¬ CompletesYear now time

/-- Unless rounding completes a year, the age of a time is accurate, and more whole seconds
make no smaller age. -/
theorem age_accurate_and_monotone {now time now' time' : Timestamp} (fair : Fair now time)
    (fair' : Fair now' time') :
    ∃ shown shown' : CountedAge,
      age now (some time) = shown.text ∧ shown.Accurate (wholeSeconds now time) ∧
        age now' (some time') = shown'.text ∧ shown'.Accurate (wholeSeconds now' time') ∧
          (wholeSeconds now time ≤ wholeSeconds now' time' →
            shown.count * shown.unit.1 ≤ shown'.count * shown'.unit.1) := by
  refine ⟨.ofSeconds (wholeSeconds now time), .ofSeconds (wholeSeconds now' time'), ?_,
    CountedAge.accurate_ofSeconds _, ?_, CountedAge.accurate_ofSeconds _,
    CountedAge.seconds_ofSeconds_mono⟩
  · rw [age_eq fair.nowNear fair.timeNear, if_neg fair.incomplete]
  · rw [age_eq fair'.nowNear fair'.timeNear, if_neg fair'.incomplete]

/-- Noon in the summer of 2024. -/
def summerNoon : Timestamp := ⟨63855432000000000, some 0, by decide⟩

/-- A time that is sixty days before that noon but for a microsecond. -/
def weeksBefore : Timestamp := ⟨63850248000000001, some 0, by decide⟩

/-- A time sixty days before that noon. -/
def monthsBefore : Timestamp := ⟨63850248000000000, none, by decide⟩

theorem ages_around_sixty_days :
    Fair summerNoon weeksBefore ∧ Fair summerNoon monthsBefore ∧
      ∃ shown shown' : CountedAge,
        age summerNoon (some weeksBefore) = shown.text ∧
          shown.Accurate (wholeSeconds summerNoon weeksBefore) ∧
          age summerNoon (some monthsBefore) = shown'.text ∧
          shown'.Accurate (wholeSeconds summerNoon monthsBefore) ∧
            (wholeSeconds summerNoon weeksBefore ≤ wholeSeconds summerNoon monthsBefore →
              shown.count * shown.unit.1 ≤ shown'.count * shown'.unit.1) := by
  have weeks : Fair summerNoon weeksBefore := ⟨by decide, by decide, by decide⟩
  have months : Fair summerNoon monthsBefore := ⟨by decide, by decide, by decide⟩
  exact ⟨weeks, months, age_accurate_and_monotone weeks months⟩

/-- A microsecond less than 545 years of 365 days before that noon. -/
def centuriesBefore : Timestamp := ⟨46668312000000001, some 0, by decide⟩

/-- A year that lacks a microsecond is counted as a whole one after five centuries. -/
theorem year_completed_early :
    age summerNoon (some centuriesBefore) = "545y" ∧
      wholeSeconds summerNoon centuriesBefore < 545 * year.1 ∧
        ¬ ∃ shown : CountedAge, age summerNoon (some centuriesBefore) = shown.text ∧
          shown.Accurate (wholeSeconds summerNoon centuriesBefore) := by
  have near : summerNoon.NearUtc := by decide
  have near' : centuriesBefore.NearUtc := by decide
  have completes : CompletesYear summerNoon centuriesBefore := by decide
  have seconds : wholeSeconds summerNoon centuriesBefore + 1 = 545 * year.1 := by decide
  have text : age summerNoon (some centuriesBefore) = (⟨545, year⟩ : CountedAge).text := by
    rw [age_eq near near', if_pos completes, seconds]
    rfl
  refine ⟨text, by omega, ?_⟩
  rintro ⟨shown, same, accurate⟩
  have whole : shown = ⟨545, year⟩ :=
    CountedAge.eq_of_text_eq accurate.known (by decide) (same.symm.trans text)
  have short := accurate.le
  rw [whole] at short
  change 545 * year.1 ≤ _ at short
  omega

end Report

end Triage
