import Mathlib.Tactic.Ring
import Triage.Number.Binary64

/-!
# Rounding of quotients

What the rounding of a quotient to a floating-point number does to its integer part.
Quotients below `2 ^ 52` have some binary places behind the point, and rounding to these
places reaches the next integer only from very near.
-/

namespace Triage.Binary64

variable {numerator denominator places : Nat}

/-! ## Rounding to binary places -/

theorem roundHalfEven_le (numerator denominator : Nat) :
    roundHalfEven numerator denominator ≤ numerator / denominator + 1 := by
  simp only [roundHalfEven]
  split
  · omega
  · split <;> omega

theorem le_roundHalfEven (numerator denominator : Nat) :
    numerator / denominator ≤ roundHalfEven numerator denominator := by
  simp only [roundHalfEven]
  split
  · omega
  · split <;> omega

/-- Above an odd number a half is rounded up. -/
theorem lt_roundHalfEven_iff_of_odd (odd : numerator / denominator % 2 = 1) :
    numerator / denominator < roundHalfEven numerator denominator ↔
      denominator ≤ 2 * (numerator % denominator) := by
  simp only [roundHalfEven]
  split
  · omega
  · split <;> omega

/-- No more is missing to the next integer than half of the last of some binary places. -/
def NearNext (numerator denominator places : Nat) : Prop :=
  2 ^ (places + 1) * (denominator - numerator % denominator) ≤ denominator

instance : Decidable (NearNext numerator denominator places) :=
  inferInstanceAs (Decidable (_ ≤ _))

/-- A quotient in units of a binary place, in terms of its integer part. -/
theorem scaled_div (numerator : Nat) (positive : 0 < denominator) :
    numerator * 2 ^ places / denominator =
      numerator / denominator * 2 ^ places +
        numerator % denominator * 2 ^ places / denominator := by
  conv_lhs => rw [← Nat.div_add_mod numerator denominator]
  rw [Nat.add_mul, Nat.mul_assoc, Nat.mul_add_div positive]

theorem scaled_mod (numerator : Nat) :
    numerator * 2 ^ places % denominator = numerator % denominator * 2 ^ places % denominator := by
  rw [Nat.mod_mul_mod]

theorem scaled_mod_div_lt (numerator places : Nat) (positive : 0 < denominator) :
    numerator % denominator * 2 ^ places / denominator < 2 ^ places := by
  rw [Nat.div_lt_iff_lt_mul positive, Nat.mul_comm]
  exact Nat.mul_lt_mul_of_pos_left (Nat.mod_lt numerator positive) (Nat.two_pow_pos places)

/-- Only from the last place before the next integer, and from no less than its half, the
next integer is near. -/
theorem nearNext_iff (positive : 0 < denominator) :
    NearNext numerator denominator places ↔
      numerator % denominator * 2 ^ places / denominator + 1 = 2 ^ places ∧
        denominator ≤ 2 * (numerator * 2 ^ places % denominator) := by
  have inside := scaled_mod_div_lt numerator places positive
  have below := Nat.mod_lt (numerator % denominator * 2 ^ places) positive
  have parts := Nat.div_add_mod (numerator % denominator * 2 ^ places) denominator
  rw [scaled_mod, NearNext, Nat.pow_succ, Nat.mul_right_comm]
  generalize numerator % denominator * 2 ^ places / denominator = place at *
  generalize numerator % denominator * 2 ^ places % denominator = spare at *
  obtain ⟨ahead, units⟩ := Nat.exists_eq_add_of_lt inside
  -- in units of the last place, what is missing and what is left fill the places ahead
  have missing : 2 ^ places * (denominator - numerator % denominator) + spare =
      denominator * ahead + denominator := by
    have whole : 2 ^ places * denominator = denominator * place + denominator * ahead +
        denominator := by rw [units]; ring
    rw [Nat.mul_sub, whole, Nat.mul_comm _ (numerator % denominator), ← parts]
    omega
  cases ahead with
  | zero => omega
  | succ more =>
      have far := Nat.mul_le_mul_left denominator (Nat.le_add_left 1 more)
      omega

/-- Rounding to some binary places keeps the integer part unless the next integer is near. -/
theorem roundHalfEven_div (positive : 0 < denominator) (behind : 0 < places) :
    roundHalfEven (numerator * 2 ^ places) denominator / 2 ^ places =
      if NearNext numerator denominator places then numerator / denominator + 1
      else numerator / denominator := by
  have least := le_roundHalfEven (numerator * 2 ^ places) denominator
  have most := roundHalfEven_le (numerator * 2 ^ places) denominator
  have inside := scaled_mod_div_lt numerator places positive
  have whole : numerator * 2 ^ places / denominator = _ := scaled_div numerator positive
  have following : (numerator / denominator + 1) * 2 ^ places =
      numerator / denominator * 2 ^ places + 2 ^ places := Nat.succ_mul _ _
  have even : 2 ∣ (numerator / denominator + 1) * 2 ^ places :=
    Dvd.dvd.mul_left (dvd_pow_self 2 behind.ne') _
  have near : NearNext numerator denominator places ↔ _ := nearNext_iff positive
  generalize numerator % denominator * 2 ^ places / denominator = place at *
  split
  · next reached =>
      obtain ⟨last, half⟩ := near.1 reached
      have odd : numerator * 2 ^ places / denominator % 2 = 1 := by omega
      have up := (lt_roundHalfEven_iff_of_odd odd).2 half
      have rounded : roundHalfEven (numerator * 2 ^ places) denominator =
          (numerator / denominator + 1) * 2 ^ places := by omega
      rw [rounded, Nat.mul_div_cancel _ (Nat.two_pow_pos places)]
  · next apart =>
      have down : roundHalfEven (numerator * 2 ^ places) denominator <
          (numerator / denominator + 1) * 2 ^ places := by
        by_cases last : place + 1 = 2 ^ places
        · have odd : numerator * 2 ^ places / denominator % 2 = 1 := by omega
          have short := mt (lt_roundHalfEven_iff_of_odd odd).1 fun half =>
            apart (near.2 ⟨last, half⟩)
          omega
        · omega
      exact Nat.div_eq_of_lt_le (by omega) down

/-! ## The exponent of a quotient -/

/-- The exponent leaves as many places as the integer part leaves of 53 bits. -/
theorem exponentFor_of_le (positive : 0 < denominator) (le : denominator ≤ numerator) :
    exponentFor numerator denominator = (Nat.log2 (numerator / denominator) : Int) - 52 := by
  have given : numerator ≠ 0 := by omega
  have least := Nat.log2_self_le given
  have most := @Nat.lt_log2_self numerator
  have below := Nat.log2_self_le positive.ne'
  have above := @Nat.lt_log2_self denominator
  have ordered : Nat.log2 denominator ≤ Nat.log2 numerator :=
    (Nat.le_log2 given).2 (below.trans le)
  obtain ⟨more, sum⟩ := Nat.exists_eq_add_of_le ordered
  have estimate : (Nat.log2 numerator : Int) - Nat.log2 denominator = more := by omega
  have whole : numerator / denominator ≠ 0 := (Nat.div_pos le positive).ne'
  simp only [exponentFor, estimate, shiftFraction, Int.natCast_nonneg, if_true, Int.toNat_natCast,
    Nat.pow_eq]
  rw [sum] at least most
  split
  · next reached =>
      have log : Nat.log2 (numerator / denominator) = more := by
        rw [Nat.log2_eq_iff whole, Nat.le_div_iff_mul_le positive,
          Nat.div_lt_iff_lt_mul positive, Nat.mul_comm]
        refine ⟨reached, most.trans_le ?_⟩
        rw [Nat.add_assoc, Nat.pow_add, Nat.mul_comm]
        exact Nat.mul_le_mul_left _ below
      omega
  · next missed =>
      cases more with
      | zero => omega
      | succ fewer =>
          have log : Nat.log2 (numerator / denominator) = fewer := by
            rw [Nat.log2_eq_iff whole, Nat.le_div_iff_mul_le positive,
              Nat.div_lt_iff_lt_mul positive, Nat.mul_comm _ denominator,
              Nat.mul_comm _ denominator]
            refine ⟨le_trans ?_ least, Nat.lt_of_not_le missed⟩
            rw [← Nat.add_assoc, Nat.add_right_comm, Nat.pow_add]
            exact Nat.mul_le_mul_right _ above.le
          omega

/-- Below one there are more places than bits. -/
theorem exponentFor_of_lt (positive : 0 < numerator) (lt : numerator < denominator) :
    exponentFor numerator denominator ≤ -53 := by
  have ordered : Nat.log2 numerator ≤ Nat.log2 denominator :=
    (Nat.le_log2 (by omega)).2 ((Nat.log2_self_le positive.ne').trans lt.le)
  simp only [exponentFor]
  split
  · next reached =>
      by_cases same : Nat.log2 numerator = Nat.log2 denominator
      · simp [shiftFraction, same] at reached
        omega
      · omega
  · omega

/-- A fraction with fewer than no places behind the point. -/
theorem fraction_neg (significand places : Nat) :
    fraction significand (-(places : Int)) = (significand, 2 ^ places) := by
  cases places with
  | zero => simp [fraction]
  | succ more =>
      rw [fraction, if_neg (by omega)]
      simp

/-- The integer part of a quotient that is rounded to some places behind the point. -/
theorem truncate?_ofRatio_of_neg (given : 0 < numerator) (positive : 0 < denominator)
    (behind : 0 < places) (exponent : exponentFor numerator denominator = -(places : Int)) :
    (ofRatio false numerator denominator).truncate? =
      some ((roundHalfEven (numerator * 2 ^ places) denominator / 2 ^ places : Nat) : Int) := by
  have nonzero : (numerator == 0 || denominator == 0) = false := by
    simp [given.ne', positive.ne']
  have shifted : shiftFraction numerator denominator (-(places : Int)) =
      (numerator * 2 ^ places, denominator) := by
    rw [shiftFraction, if_neg (by omega)]
    simp
  have least : ¬ 971 ≤ -(places : Int) := by omega
  have less : ¬ 971 < -(places : Int) := by omega
  simp only [ofRatio, nonzero, exponent, shifted, least, less, if_false, Bool.false_eq_true]
  split
  · next full =>
      rw [beq_iff_eq] at full
      obtain ⟨fewer, rfl⟩ := Nat.exists_eq_add_one.2 behind
      have next : -((fewer + 1 : Nat) : Int) + 1 = -(fewer : Int) := by omega
      have halved : Nat.pow 2 53 / 2 ^ (fewer + 1) = Nat.pow 2 52 / 2 ^ fewer := by
        rw [Nat.pow_eq, Nat.pow_eq, Nat.pow_succ, Nat.pow_succ 2 fewer]
        exact Nat.mul_div_mul_right _ _ (by decide)
      simp only [next, truncate?, fraction_neg, full, halved]
      simp
  · simp [truncate?, fraction_neg]

/-- With a small denominator no quotient below one is near to one. -/
theorem not_nearNext_of_lt (below : numerator < denominator) (small : denominator < 2 ^ 53)
    (many : 52 ≤ places) : ¬ NearNext numerator denominator places := by
  have units : 2 ^ 53 ≤ 2 ^ (places + 1) := Nat.pow_le_pow_right (by decide) (by omega)
  have missing : 0 < denominator - numerator := by omega
  have far := Nat.le_mul_of_pos_right (2 ^ (places + 1)) missing
  rw [NearNext, Nat.mod_eq_of_lt below]
  omega

/-- The integer part of a rounded quotient below `2 ^ 52` is that of the quotient itself,
or the next integer if no more than half of the last place is missing to it. -/
theorem truncate?_ofRatio (positive : 0 < denominator) (small : denominator < 2 ^ 53)
    (bounded : numerator / denominator < 2 ^ 52) :
    (ofRatio false numerator denominator).truncate? = some
      ((if NearNext numerator denominator (52 - Nat.log2 (numerator / denominator))
        then numerator / denominator + 1 else numerator / denominator : Nat) : Int) := by
  rcases Nat.lt_or_ge numerator denominator with below | above
  · have whole : numerator / denominator = 0 := Nat.div_eq_of_lt below
    have apart := @not_nearNext_of_lt numerator denominator 52 below small le_rfl
    rw [whole, Nat.log2_zero, if_neg apart]
    rcases Nat.eq_zero_or_pos numerator with rfl | given
    · have zero : fraction 0 (-1074) = (0, 2 ^ 1074) := fraction_neg 0 1074
      simp only [ofRatio_zero, truncate?, zero, Nat.zero_div]
      rfl
    · have tiny := exponentFor_of_lt given below
      obtain ⟨places, exponent⟩ := Int.exists_eq_neg_ofNat (a := exponentFor numerator denominator)
        (by omega)
      rw [truncate?_ofRatio_of_neg given positive (by omega) exponent,
        roundHalfEven_div positive (by omega), if_neg (not_nearNext_of_lt below small (by omega)),
        whole]
  · have log : Nat.log2 (numerator / denominator) < 52 :=
      (Nat.log2_lt (Nat.div_pos above positive).ne').2 bounded
    have exponent := exponentFor_of_le positive above
    have places : exponentFor numerator denominator =
        -((52 - Nat.log2 (numerator / denominator) : Nat) : Int) := by omega
    rw [truncate?_ofRatio_of_neg (positive.trans_le above) positive (by omega) places,
      roundHalfEven_div positive (by omega)]

end Triage.Binary64
