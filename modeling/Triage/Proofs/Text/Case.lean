import Mathlib.Data.List.TakeWhile
import Triage.Notification.Basic
import Triage.Store.Totals

/-!
# Names of programs in any case

The store lowers the letters of ASCII only, and counts a name up to the first NUL.
Full lower case changes other characters as well, but into none that the marks of
programs consist of, so that both find the same marks.
-/

namespace Triage

namespace Text

/-! ## Texts that agree on some characters -/

/-- Two texts have the same wanted characters in the same places; other characters
of the second text may stand for one or more other ones in the first. -/
inductive AlikeOn (wanted : Char → Bool) : List Char → List Char → Prop where
  | nil : AlikeOn wanted [] []
  | same {first second : List Char} (character : Char) (rest : AlikeOn wanted first second) :
      AlikeOn wanted (character :: first) (character :: second)
  | other {first second form : List Char} {character : Char} (given : form ≠ [])
      (unwanted : ∀ part ∈ form, wanted part = false) (changed : wanted character = false)
      (rest : AlikeOn wanted first second) :
      AlikeOn wanted (form ++ first) (character :: second)

variable {wanted : Char → Bool} {first second needle form : List Char}

theorem ne_of_wanted {character part : Char} (one : wanted character = true)
    (other : wanted part = false) : character ≠ part := by
  rintro rfl
  rw [one] at other
  cases other

/-- Both texts start with the same wanted texts. -/
theorem AlikeOn.prefix_iff (alike : AlikeOn wanted first second)
    (every : ∀ character ∈ needle, wanted character = true) :
    needle <+: first ↔ needle <+: second := by
  induction alike generalizing needle with
  | nil => exact Iff.rfl
  | same character rest ih =>
      cases needle with
      | nil => simp
      | cons head needle =>
          rw [List.cons_prefix_cons, List.cons_prefix_cons,
            ih fun part member => every part (by simp [member])]
  | @other first second form character given unwanted changed rest ih =>
      cases needle with
      | nil => simp
      | cons head needle =>
          have headWanted := every head List.mem_cons_self
          obtain ⟨start, form, rfl⟩ := List.exists_cons_of_ne_nil given
          have differs := ne_of_wanted headWanted (unwanted start List.mem_cons_self)
          rw [List.cons_append, List.cons_prefix_cons, List.cons_prefix_cons]
          simp [differs, ne_of_wanted headWanted changed]

/-- The same wanted texts are equal to both texts. -/
theorem AlikeOn.eq_iff (alike : AlikeOn wanted first second)
    (every : ∀ character ∈ needle, wanted character = true) :
    needle = first ↔ needle = second := by
  induction alike generalizing needle with
  | nil => exact Iff.rfl
  | same character rest ih =>
      cases needle with
      | nil => simp
      | cons head needle =>
          rw [List.cons.injEq, List.cons.injEq,
            ih fun part member => every part (by simp [member])]
  | @other first second form character given unwanted changed rest ih =>
      obtain ⟨start, form, rfl⟩ := List.exists_cons_of_ne_nil given
      constructor
      · rintro rfl
        exact absurd rfl (ne_of_wanted (every start (by simp)) (unwanted start (by simp)))
      · rintro rfl
        exact absurd rfl (ne_of_wanted (every character (by simp)) changed)

/-- Behind a part without wanted characters a wanted text occurs where it does. -/
theorem infix_append_iff_of_unwanted (given : needle ≠ [])
    (every : ∀ character ∈ needle, wanted character = true)
    (unwanted : ∀ part ∈ form, wanted part = false) :
    needle <:+: form ++ first ↔ needle <:+: first := by
  induction form with
  | nil => rfl
  | cons part form ih =>
      obtain ⟨head, needle, rfl⟩ := List.exists_cons_of_ne_nil given
      have differs := ne_of_wanted (every head (by simp)) (unwanted part (by simp))
      rw [List.cons_append, List.infix_cons_iff, List.cons_prefix_cons,
        ih fun other member => unwanted other (by simp [member])]
      simp [differs]

theorem suffix_append_iff_of_unwanted (given : needle ≠ [])
    (every : ∀ character ∈ needle, wanted character = true)
    (unwanted : ∀ part ∈ form, wanted part = false) :
    needle <:+ form ++ first ↔ needle <:+ first := by
  induction form with
  | nil => rfl
  | cons part form ih =>
      obtain ⟨head, needle, rfl⟩ := List.exists_cons_of_ne_nil given
      have differs := ne_of_wanted (every head (by simp)) (unwanted part (by simp))
      rw [List.cons_append, List.suffix_cons_iff, List.cons.injEq,
        ih fun other member => unwanted other (by simp [member])]
      simp [differs]

/-- Both texts hold the same wanted texts. -/
theorem AlikeOn.infix_iff (alike : AlikeOn wanted first second) (given : needle ≠ [])
    (every : ∀ character ∈ needle, wanted character = true) :
    needle <:+: first ↔ needle <:+: second := by
  induction alike with
  | nil => exact Iff.rfl
  | same character rest ih =>
      rw [List.infix_cons_iff, List.infix_cons_iff, ih, (rest.same character).prefix_iff every]
  | @other first second form character nonempty unwanted changed rest ih =>
      have alone : needle <:+: [character] ++ second ↔ needle <:+: second :=
        infix_append_iff_of_unwanted given every (by simpa using changed)
      rw [infix_append_iff_of_unwanted given every unwanted, ih, ← alone]
      rfl

/-- Both texts end with the same wanted texts. -/
theorem AlikeOn.suffix_iff (alike : AlikeOn wanted first second) (given : needle ≠ [])
    (every : ∀ character ∈ needle, wanted character = true) :
    needle <:+ first ↔ needle <:+ second := by
  induction alike with
  | nil => exact Iff.rfl
  | same character rest ih =>
      rw [List.suffix_cons_iff, List.suffix_cons_iff, ih, (rest.same character).eq_iff every]
  | @other first second form character nonempty unwanted changed rest ih =>
      have alone : needle <:+ [character] ++ second ↔ needle <:+ second :=
        suffix_append_iff_of_unwanted given every (by simpa using changed)
      rw [suffix_append_iff_of_unwanted given every unwanted, ih, ← alone]
      rfl

/-! ## Lower case -/

/-- The code points of the characters that the marks of programs consist of. -/
def markCodes : List Nat := [45, 91, 93, 98, 111, 116]

/-- A character of a mark of programs. -/
def isMark (character : Char) : Bool :=
  markCodes.contains character.toNat

theorem isMark_of_not_ascii {character : Char} (beyond : ¬ character.toNat < 128) :
    isMark character = false := by
  rw [isMark, ← Bool.not_eq_true, List.contains_iff_mem]
  intro member
  simp only [markCodes, List.mem_cons, List.not_mem_nil, or_false] at member
  omega

/-- A number that is the code point of no mark makes no mark. -/
theorem isMark_ofNat {code : Nat} (unmarked : code ∉ markCodes) :
    isMark (Char.ofNat code) = false := by
  rw [isMark, ← Bool.not_eq_true, List.contains_iff_mem]
  by_cases valid : code.isValidChar
  · rw [Char.ofNat, dif_pos valid]
    exact unmarked
  · rw [Char.ofNat, dif_neg valid]
    decide

/-- No run of the table of lower case leads to a mark. -/
theorem image_not_mem_markCodes {code image : Nat}
    (found : CaseTable.Run.image? CaseTable.lower code = some image) : image ∉ markCodes := by
  have runs : CaseTable.lower.all fun run =>
      markCodes.all fun mark => decide ((mark : Int) < run.first + run.shift) ||
        decide ((run.last : Int) + run.shift < mark) := by decide +kernel
  obtain ⟨run, known, rfl⟩ := Option.map_eq_some_iff.1 found
  have within := Array.find?_some known
  have member := Array.mem_of_find?_eq_some known
  intro marked
  have outside := Array.all_eq_true_iff_forall_mem.1 runs run member
  rw [List.all_eq_true] at outside
  have outside := outside _ marked
  have positive : 0 < ((code : Int) + run.shift).toNat := by
    simp only [markCodes, List.mem_cons, List.not_mem_nil, or_false] at marked
    omega
  simp only [Bool.and_eq_true, Bool.or_eq_true, decide_eq_true_eq] at within outside
  omega

/-- No longer form of lower case has a mark. -/
theorem longForm_unmarked {code : Nat} {form : List Char}
    (found : longForm? CaseTable.lowerLong code = some form) :
    form ≠ [] ∧ ∀ part ∈ form, isMark part = false := by
  have forms : CaseTable.lowerLong.all fun entry => !entry.2.isEmpty &&
      (entry.2.map Char.ofNat).all fun part => !isMark part := by decide +kernel
  obtain ⟨entry, known, rfl⟩ := Option.map_eq_some_iff.1 found
  have unmarked := Array.all_eq_true_iff_forall_mem.1 forms entry
    (Array.mem_of_find?_eq_some known)
  simpa using unmarked

/-- Lower case of a character beyond ASCII has no mark. -/
theorem lowerChar_unmarked {character : Char} (beyond : ¬ character.toNat < 128) :
    lowerChar character ≠ [] ∧ ∀ part ∈ lowerChar character, isMark part = false := by
  rw [lowerChar]
  simp only [beyond, if_false]
  split
  · next form found => exact longForm_unmarked found
  · refine ⟨List.cons_ne_nil _ _, fun part member => ?_⟩
    rw [List.mem_singleton.1 member]
    cases found : CaseTable.Run.image? CaseTable.lower character.toNat with
    | none => exact isMark_of_not_ascii beyond
    | some image => exact isMark_ofNat (image_not_mem_markCodes found)

theorem asciiLowerChar_of_not_ascii {character : Char} (beyond : ¬ character.toNat < 128) :
    asciiLowerChar character = character := by
  rw [asciiLowerChar, if_neg]
  rw [Bool.and_eq_true, decide_eq_true_eq, decide_eq_true_eq]
  rintro ⟨_, last⟩
  have last : character.toNat ≤ 90 := last
  omega

/-- Either form of a small sigma is beyond ASCII. -/
theorem lowerSigma_not_ascii (before after : List Char) :
    ¬ (lowerSigma before after).toNat < 128 := by
  rw [lowerSigma]
  split <;> decide

/-- Full lower case and that of ASCII alone have the same marks in the same places. -/
theorem alikeOn_lowerAfter (before characters : List Char) :
    AlikeOn isMark (lowerAfter before characters) (characters.map asciiLowerChar) := by
  induction characters generalizing before with
  | nil => exact .nil
  | cons character rest ih =>
      have later := ih (character :: before)
      rw [lowerAfter, List.map_cons]
      by_cases ascii : character.toNat < 128
      · have plain : (character == capitalSigma) = false := by
          rw [beq_eq_false_iff_ne]
          rintro rfl
          exact absurd ascii (by decide)
        rw [plain, lowerChar]
        simp only [ascii, if_true]
        exact later.same _
      · rw [asciiLowerChar_of_not_ascii ascii]
        split
        · refine .other (List.cons_ne_nil _ _) (fun part member => ?_)
            (isMark_of_not_ascii ascii) later
          rw [List.mem_singleton.1 member]
          exact isMark_of_not_ascii (lowerSigma_not_ascii before rest)
        · obtain ⟨given, unmarked⟩ := lowerChar_unmarked ascii
          exact .other given unmarked (isMark_of_not_ascii ascii) later

theorem toNat_asciiLowerChar_ne_zero {character : Char} (given : character.toNat ≠ 0) :
    (asciiLowerChar character).toNat ≠ 0 := by
  by_cases ascii : character.toNat < 128
  · have every : ∀ code < 128, code ≠ 0 → (asciiLowerChar (Char.ofNat code)).toNat ≠ 0 := by
      decide
    simpa using every character.toNat ascii given
  · rwa [asciiLowerChar_of_not_ascii ascii]

end Text

/-! ## Names of programs -/

/-- A text without U+0000. -/
def Text.NulFree (text : String) : Prop :=
  ∀ character ∈ text.toList, character.toNat ≠ 0

/-- The store and the screen take the same names for those of programs. -/
theorem Notification.isBotName_eq (author : String) :
    isBotName author = (Text.contains "[bot]" (Text.asciiLower author) ||
      Text.endsWith "-bot" (Text.asciiLower author)) := by
  have alike : Text.AlikeOn Text.isMark (Text.lower author).toList
      (Text.asciiLower author).toList := by
    rw [Text.lower, Text.asciiLower, String.toList_ofList, String.toList_ofList]
    exact Text.alikeOn_lowerAfter [] author.toList
  have marked : ∀ character ∈ "[bot]".toList, Text.isMark character = true :=
    List.all_eq_true.1 (by decide +kernel)
  have marked' : ∀ character ∈ "-bot".toList, Text.isMark character = true :=
    List.all_eq_true.1 (by decide +kernel)
  rw [Bool.eq_iff_iff]
  simp only [isBotName, Bool.or_eq_true, Text.contains, Text.containsList_iff, Text.endsWith,
    List.isSuffixOf_iff_suffix]
  rw [alike.infix_iff (by decide) marked, alike.suffix_iff (by decide) marked']

/-- A row counts as one of a program as the notification in it does, unless its
author holds a NUL. -/
theorem Row.isBot_eq {row : Row} {record : Notification}
    (author : record.subject.author = row.subject.author)
    (whole : ∀ author ∈ row.subject.author, Text.NulFree author) : row.isBot = record.isBot := by
  rw [Row.isBot, Notification.isBot, author]
  cases known : row.subject.author with
  | none => rfl
  | some author =>
      have kept : (Text.asciiLower author).toList.takeWhile
          (fun character => character.toNat != 0) = (Text.asciiLower author).toList := by
        rw [List.takeWhile_eq_self_iff]
        intro character member
        rw [Text.asciiLower, String.toList_ofList, List.mem_map] at member
        obtain ⟨source, present, rfl⟩ := member
        simpa using Text.toNat_asciiLowerChar_ne_zero (whole author known source present)
      simp only [kept, String.ofList_toList, ← Notification.isBotName_eq]
      by_cases empty : author = ""
      · subst empty
        decide +kernel
      · simp [empty]

end Triage
