import Triage.Proofs.Text.Case

/-!
# Lower case

Lower case leads to characters that it keeps, so that a text in lower case stays as it is.
Of a text within another one it gives the same as of that text alone, apart from capital
sigmas, whose form depends on what stands around the text.
-/

namespace Triage.Text

/-! ## Texts in lower case -/

/-- A character that has no other form in lower case. -/
def KeptByLower (character : Char) : Prop :=
  lowerChar character = [character] ∧ character ≠ capitalSigma

instance (character : Char) : Decidable (KeptByLower character) :=
  inferInstanceAs (Decidable (_ ∧ _))

/-- The code point to which a run leads. -/
def CaseTable.Run.image (run : CaseTable.Run) (code : Nat) : Nat :=
  ((code : Int) + run.shift).toNat

/-- A run does not lead into another one: they do not meet, or both take every second code
point and not the same ones. -/
def CaseTable.Run.apartFrom (run other : CaseTable.Run) : Bool :=
  Nat.blt (run.image run.last) other.first || Nat.blt other.last (run.image run.first) ||
    ((run.first == run.last || run.step == 2) && other.step == 2 &&
      run.image run.first % 2 != other.first % 2)

theorem lower_apartFrom :
    ∀ run ∈ CaseTable.lower.toList, CaseTable.lower.toList.all run.apartFrom = true := by
  decide +kernel

/-- No run leads to an ASCII capital or to a character with a longer form. -/
theorem lower_leads_down : ∀ run ∈ CaseTable.lower.toList, 90 < run.image run.first ∧
    ∀ entry ∈ CaseTable.lowerLong.toList,
      run.image run.last < entry.1 ∨ entry.1 < run.image run.first := by
  decide +kernel

/-- Code points that longer forms and capital sigmas lead to. -/
theorem keptByLower_extra :
    ∀ code ∈ [105, 775, 962, 963], KeptByLower (Char.ofNat code) := by
  -- evaluation of the tables as lists takes far fewer steps
  simp only [KeptByLower, lowerChar, longForm?, CaseTable.Run.image?, ← Array.find?_toList]
  decide +kernel

/-- A code point and its image lie at the same place of a run. -/
theorem exists_run_of_image? {table : Array CaseTable.Run} {code image : Nat}
    (found : CaseTable.Run.image? table code = some image) :
    ∃ run ∈ table.toList, run.first ≤ code ∧ code ≤ run.last ∧
      (code - run.first) % run.step = 0 ∧ image = run.image code := by
  obtain ⟨run, known, rfl⟩ := Option.map_eq_some_iff.1 found
  have within := Array.find?_some known
  simp only [Bool.and_eq_true, decide_eq_true_eq, beq_iff_eq] at within
  exact ⟨run, (Array.mem_of_find?_eq_some known).val, within.1.1, within.1.2, within.2, rfl⟩

/-- Images keep their distances, above zero. -/
theorem CaseTable.Run.image_eq {run : CaseTable.Run} {code : Nat}
    (positive : 0 < run.image run.first) (first : run.first ≤ code) :
    run.image code = run.image run.first + (code - run.first) := by
  unfold image at positive ⊢
  omega

/-- The image of a code point has no image. -/
theorem image?_image {code image : Nat}
    (found : CaseTable.Run.image? CaseTable.lower code = some image) :
    CaseTable.Run.image? CaseTable.lower image = none := by
  by_contra moved
  obtain ⟨next, again⟩ := Option.ne_none_iff_exists'.1 moved
  obtain ⟨run, member, first, last, place, rfl⟩ := exists_run_of_image? found
  obtain ⟨other, present, first', last', place', -⟩ := exists_run_of_image? again
  have positive : 0 < run.image run.first := Nat.zero_lt_of_lt (lower_leads_down run member).1
  have apart := List.all_eq_true.1 (lower_apartFrom run member) other present
  simp only [CaseTable.Run.apartFrom, Bool.or_eq_true, Bool.and_eq_true, Nat.blt_eq, beq_iff_eq,
    bne_iff_ne, run.image_eq positive (first.trans last)] at apart
  rw [run.image_eq positive first] at first' last' place'
  rcases apart with (before | behind) | ⟨⟨single | double, every⟩, parity⟩
  · omega
  · omega
  · rw [every] at place'
    omega
  · rw [double] at place
    rw [every] at place'
    omega

theorem keptByLower_of_beyond {character : Char} (beyond : ¬ character.toNat < 128)
    (short : longForm? CaseTable.lowerLong character.toNat = none)
    (fixed : CaseTable.Run.image? CaseTable.lower character.toNat = none) :
    KeptByLower character := by
  constructor
  · simp [lowerChar, beyond, short, fixed]
  · rintro rfl
    revert fixed
    decide +kernel

theorem keptByLower_of_ascii {character : Char} (ascii : character.toNat < 128)
    (small : character.toNat < 65 ∨ 90 < character.toNat) : KeptByLower character := by
  have every : ∀ code < 128, code < 65 ∨ 90 < code → KeptByLower (Char.ofNat code) := by
    decide +kernel
  simpa using every character.toNat ascii small

/-- Lower case keeps what a run leads to. -/
theorem keptByLower_image {code image : Nat}
    (found : CaseTable.Run.image? CaseTable.lower code = some image) :
    KeptByLower (Char.ofNat image) := by
  have fixed := image?_image found
  obtain ⟨run, member, first, last, -, rfl⟩ := exists_run_of_image? found
  obtain ⟨small, short⟩ := lower_leads_down run member
  have place := run.image_eq (Nat.zero_lt_of_lt small) first
  have ends := run.image_eq (Nat.zero_lt_of_lt small) (first.trans last)
  by_cases valid : (run.image code).isValidChar
  · have same : (Char.ofNat (run.image code)).toNat = run.image code := by
      rw [Char.ofNat, dif_pos valid]
      rfl
    by_cases ascii : run.image code < 128
    · exact keptByLower_of_ascii (by omega) (by omega)
    · refine keptByLower_of_beyond (by omega) ?_ (by simpa only [same] using fixed)
      rw [same, longForm?, Option.map_eq_none_iff, Array.find?_eq_none]
      intro entry present
      have apart := short entry present.val
      simp only [beq_iff_eq]
      omega
  · rw [Char.ofNat, dif_neg valid]
    exact keptByLower_of_ascii (by decide) (by decide)

theorem keptByLower_longForm {code : Nat} {form : List Char}
    (found : longForm? CaseTable.lowerLong code = some form) :
    ∀ part ∈ form, KeptByLower part := by
  have forms : ∀ entry ∈ CaseTable.lowerLong.toList, ∀ code ∈ entry.2,
      code ∈ [105, 775, 962, 963] := by
    decide
  obtain ⟨entry, known, rfl⟩ := Option.map_eq_some_iff.1 found
  intro part member
  obtain ⟨code, present, rfl⟩ := List.mem_map.1 member
  exact keptByLower_extra code (forms entry (Array.mem_of_find?_eq_some known).val code present)

/-- Lower case of a character consists of characters that lower case keeps. -/
theorem keptByLower_of_mem_lowerChar {character part : Char}
    (member : part ∈ lowerChar character) : KeptByLower part := by
  by_cases ascii : character.toNat < 128
  · have every : ∀ code < 128, KeptByLower (asciiLowerChar (Char.ofNat code)) := by
      decide +kernel
    simp only [lowerChar, ascii, if_true, List.mem_singleton] at member
    rw [member]
    simpa using every character.toNat ascii
  · simp only [lowerChar, ascii, if_false] at member
    split at member
    · next form found => exact keptByLower_longForm found part member
    · next short =>
        rw [List.mem_singleton.1 member]
        cases found : CaseTable.Run.image? CaseTable.lower character.toNat with
        | none => exact keptByLower_of_beyond ascii short found
        | some image => exact keptByLower_image found

theorem keptByLower_lowerSigma (before after : List Char) :
    KeptByLower (lowerSigma before after) := by
  rw [lowerSigma]
  split <;> exact keptByLower_extra _ (by decide)

theorem keptByLower_of_mem_lowerAfter {before characters : List Char} {part : Char}
    (member : part ∈ lowerAfter before characters) : KeptByLower part := by
  induction characters generalizing before with
  | nil => cases member
  | cons character rest ih =>
      rw [lowerAfter] at member
      rcases List.mem_append.1 member with here | later
      · split at here
        · rw [List.mem_singleton.1 here]
          exact keptByLower_lowerSigma before rest
        · exact keptByLower_of_mem_lowerChar here
      · exact ih later

theorem lowerAfter_of_kept {before characters : List Char}
    (kept : ∀ character ∈ characters, KeptByLower character) :
    lowerAfter before characters = characters := by
  induction characters generalizing before with
  | nil => rfl
  | cons character rest ih =>
      obtain ⟨same, plain⟩ := kept character (by simp)
      rw [lowerAfter, if_neg (by simpa using plain), same,
        ih fun other member => kept other (by simp [member])]
      rfl

/-- A text in lower case stays as it is. -/
@[simp] theorem lower_lower (text : String) : lower (lower text) = lower text := by
  rw [lower, lower, String.toList_ofList, lowerList, lowerList,
    lowerAfter_of_kept fun _ => keptByLower_of_mem_lowerAfter]

/-! ## Parts of a text -/

/-- Lower case of a text between the reversed text `before` and the text `after`. -/
def lowerBetween (before : List Char) : List Char → List Char → List Char
  | [], _ => []
  | character :: rest, after =>
      (if character == capitalSigma then [lowerSigma before (rest ++ after)]
        else lowerChar character) ++ lowerBetween (character :: before) rest after

/-- Lower case goes part by part, if each part is seen among the others. -/
theorem lowerAfter_append (before first second : List Char) :
    lowerAfter before (first ++ second) =
      lowerBetween before first second ++ lowerAfter (first.reverse ++ before) second := by
  induction first generalizing before with
  | nil => rfl
  | cons character rest ih => simp [lowerAfter, lowerBetween, ih]

/-- A letter with case at the start of a text is seen at once. -/
theorem leadsCased_cons {letter : Char} (cased : isCased letter = true)
    (solid : isCaseIgnorable letter = false) (rest : List Char) :
    leadsCased (letter :: rest) = true := by
  simp [leadsCased, cased, solid]

/-- Every capital sigma of a text has the form that it has in the text alone when `before` and
`after` stand around the text. -/
def KeepsSigmas (before text after : List Char) : Prop :=
  ∀ front back, text = front ++ capitalSigma :: back →
    lowerSigma (front.reverse ++ before.reverse) (back ++ after) = lowerSigma front.reverse back

/-- A text without capital sigmas keeps them anywhere. -/
theorem keepsSigmas_of_not_mem {text : List Char} (without : capitalSigma ∉ text)
    (before after : List Char) : KeepsSigmas before text after := by
  rintro front back rfl
  exact absurd (by simp) without

theorem lowerBetween_eq_lowerAfter {before read text after : List Char}
    (keeps : ∀ front back, text = front ++ capitalSigma :: back →
      lowerSigma (front.reverse ++ (read ++ before)) (back ++ after) =
        lowerSigma (front.reverse ++ read) back) :
    lowerBetween (read ++ before) text after = lowerAfter read text := by
  -- `read` is the part of the text that is lowered already, in reverse
  induction text generalizing read with
  | nil => rfl
  | cons character rest ih =>
      have others : lowerBetween (character :: (read ++ before)) rest after =
          lowerAfter (character :: read) rest := by
        refine @ih (character :: read) fun front back same => ?_
        simpa using keeps (character :: front) back (by rw [same, List.cons_append])
      rw [lowerBetween, lowerAfter, others]
      split
      · next sigma =>
          have here := keeps [] rest (by rw [beq_iff_eq.1 sigma, List.nil_append])
          rw [List.reverse_nil, List.nil_append, List.nil_append] at here
          rw [here]
      · rfl

/-- Lower case of a text that keeps its capital sigmas within another one is a part of lower
case of the other one. -/
theorem KeepsSigmas.lowerList_infix {before text after : List Char}
    (keeps : KeepsSigmas before text after) :
    lowerList text <:+: lowerList (before ++ (text ++ after)) := by
  have middle : lowerBetween before.reverse text after = lowerList text :=
    @lowerBetween_eq_lowerAfter before.reverse [] text after (by simpa [KeepsSigmas] using keeps)
  rw [← middle, lowerList, lowerAfter_append, List.append_nil, lowerAfter_append]
  exact ⟨_, _, List.append_assoc _ _ _⟩

end Triage.Text
