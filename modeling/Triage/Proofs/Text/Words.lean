import Triage.Text.Basic

/-!
# Words of a text

A blank belongs to no word, so that the words of two texts with a blank between them are
those of the first text followed by those of the second.  Splitting and joining are the
operations of the same names on lists.
-/

namespace Triage.Text

/-! ## Blanks -/

/-- The code points of the blanks. -/
def blankCodes : List Nat :=
  [9, 10, 11, 12, 13, 28, 29, 30, 31, 32, 0x85, 0xA0, 0x1680, 0x2000, 0x2001, 0x2002, 0x2003,
    0x2004, 0x2005, 0x2006, 0x2007, 0x2008, 0x2009, 0x200A, 0x2028, 0x2029, 0x202F, 0x205F, 0x3000]

theorem toNat_mem_blankCodes {character : Char} (blank : isBlank character = true) :
    character.toNat ∈ blankCodes := by
  simp only [isBlank, Bool.or_eq_true, Bool.and_eq_true, decide_eq_true_eq, beq_iff_eq] at blank
  simp only [blankCodes, List.mem_cons, List.not_mem_nil, or_false]
  omega

theorem inRanges_eq_any_toList (table : Array (Nat × Nat)) (code : Nat) :
    inRanges table code = table.toList.any fun range => range.1 ≤ code && code ≤ range.2 :=
  Array.any_toList.symm

/-- No blank is a word character. -/
theorem isWord_of_isBlank {character : Char} (blank : isBlank character = true) :
    isWord character = false := by
  have none : ∀ code ∈ blankCodes, isWord (Char.ofNat code) = false := by
    -- evaluation of the table as a list takes far fewer steps
    simp only [isWord, inRanges_eq_any_toList]
    decide +kernel
  rw [← Char.ofNat_toNat character]
  exact none _ (toNat_mem_blankCodes blank)

theorem ne_of_isBlank {character other : Char} (blank : isBlank character = true)
    (solid : isBlank other = false) : character ≠ other := by
  rintro rfl
  rw [blank] at solid
  cases solid

/-! ## Words -/

section Words

variable {test : Char → Bool} {first second word : List Char} {character : Char}

theorem fieldsAux_append_cons (separates : test character = true) (current : List Char) :
    fieldsAux test (first ++ character :: second) current =
      fieldsAux test first current ++ fieldsAux test second [] := by
  induction first generalizing current with
  | nil => cases current <;> simp [fieldsAux, separates]
  | cons head rest ih =>
      rw [List.cons_append, fieldsAux, fieldsAux, ih, ih]
      split
      · split <;> rfl
      · rfl

theorem fieldsAux_of_solid (solid : ∀ character ∈ word, test character = false)
    (current : List Char) :
    fieldsAux test word current =
      if (word ++ current).isEmpty then [] else [current.reverse ++ word] := by
  induction word generalizing current with
  | nil => cases current <;> simp [fieldsAux]
  | cons head rest ih =>
      have others := ih fun part member => solid part (by simp [member])
      rw [fieldsAux, if_neg (by simp [solid head]), others]
      simp

/-- A blank ends a word. -/
theorem words_append_cons (blank : isBlank character = true) :
    words (first ++ character :: second) = words first ++ words second :=
  fieldsAux_append_cons blank []

theorem words_cons (blank : isBlank character = true) :
    words (character :: second) = words second :=
  @words_append_cons [] second character blank

/-- Blanks in front belong to no word. -/
theorem words_blanks_append {gap : List Char}
    (blank : ∀ character ∈ gap, isBlank character = true) :
    words (gap ++ second) = words second := by
  induction gap with
  | nil => rfl
  | cons head rest ih =>
      rw [List.cons_append, words_cons (blank head (by simp))]
      exact ih fun part member => blank part (by simp [member])

/-- Blanks between two texts part their words. -/
theorem words_append_gap {gap : List Char} (given : gap ≠ [])
    (blank : ∀ character ∈ gap, isBlank character = true) :
    words (first ++ (gap ++ second)) = words first ++ words second := by
  obtain ⟨head, rest, rfl⟩ := List.exists_cons_of_ne_nil given
  rw [List.cons_append, words_append_cons (blank head (by simp)),
    words_blanks_append fun part member => blank part (by simp [member])]

/-- A text without blanks is one word. -/
theorem words_of_solid (given : word ≠ []) (solid : ∀ character ∈ word, isBlank character = false) :
    words word = [word] := by
  rw [words, fieldsAux_of_solid solid]
  simp [given]

/-- A run of characters up to a blank or the end is a word. -/
theorem words_append_of_solid (given : word ≠ [])
    (solid : ∀ character ∈ word, isBlank character = false)
    (ends : ∀ next ∈ second.head?, isBlank next = true) :
    words (word ++ second) = word :: words second := by
  cases second with
  | nil => rw [List.append_nil, words_of_solid given solid, words_nil]
  | cons next rest =>
      have blank : isBlank next = true := ends next (by simp)
      rw [words_append_cons blank, words_of_solid given solid, words_cons blank]
      rfl

theorem solid_of_mem_fieldsAux {current : List Char}
    (known : ∀ part ∈ current, test part = false) (member : word ∈ fieldsAux test first current) :
    ∀ part ∈ word, test part = false := by
  fun_induction fieldsAux test first current with
  | case1 => cases member
  | case2 current filled => simpa [List.mem_singleton.1 member] using known
  | case3 rest head _ separates empty ih => exact ih (by simp) member
  | case4 rest head current separates filled ih =>
      rcases List.mem_cons.1 member with rfl | later
      · simpa using known
      · exact ih (by simp) later
  | case5 rest head current joins ih =>
      refine ih (fun part inside => ?_) member
      rcases List.mem_cons.1 inside with rfl | old
      · simpa using joins
      · exact known part old

/-- No character of a word is a blank. -/
theorem solid_of_mem_words (member : word ∈ words first) :
    ∀ part ∈ word, isBlank part = false :=
  solid_of_mem_fieldsAux (by simp) member

theorem flatten_fieldsAux (current : List Char) :
    (fieldsAux test first current).flatten = current.reverse ++ first.filter (!test ·) := by
  fun_induction fieldsAux test first current with
  | case1 => rfl
  | case2 current filled => simp
  | case3 rest head current separates empty ih => simp_all
  | case4 rest head current separates filled ih => simp_all
  | case5 rest head current joins ih => simp_all

/-- The words are what is left of a text without its blanks. -/
theorem flatten_words (characters : List Char) :
    (words characters).flatten = characters.filter (!isBlank ·) :=
  flatten_fieldsAux []

end Words

/-! ## Splitting and joining -/

theorem splitAt_eq_splitOn (separator : Char) (characters : List Char) :
    splitAt separator characters = characters.splitOn separator := by
  induction characters with
  | nil => rfl
  | cons head rest ih =>
      rw [splitAt, List.splitOn_cons_eq_if_modifyHead, ih]
      split
      · rfl
      · obtain ⟨piece, pieces, found⟩ :=
          List.exists_cons_of_ne_nil (List.splitOn_ne_nil separator rest)
        rw [found]
        rfl

/-- What is behind the last slash of a name that is put together. -/
theorem afterLastSlash_append (front : String) {last : String}
    (apart : '/' ∉ last.toList) : afterLastSlash (front ++ "/" ++ last) = last := by
  have whole : last.toList.splitOnP (· == '/') = [last.toList] :=
    List.splitOnP_eq_singleton fun character member => by
      rw [beq_eq_false_iff_ne]
      rintro rfl
      exact apart member
  have pieces : splitAt '/' (front ++ "/" ++ last).toList =
      front.toList.splitOnP (· == '/') ++ [last.toList] := by
    rw [splitAt_eq_splitOn, List.splitOn_eq_splitOnP, String.toList_append,
      String.toList_append, List.append_assoc, ← whole]
    exact List.splitOnP_append_cons _ _ rfl
  rw [afterLastSlash, pieces, List.getLastD_concat, String.ofList_toList]

theorem not_mem_of_mem_splitOn {separator : Char} {characters piece : List Char}
    (member : piece ∈ characters.splitOn separator) : separator ∉ piece := by
  induction characters generalizing piece with
  | nil => simp_all
  | cons first rest ih =>
      rw [List.splitOn_cons_eq_if_modifyHead] at member
      split at member
      · rcases List.mem_cons.1 member with rfl | later
        · exact List.not_mem_nil
        · exact ih later
      · next differs =>
          obtain ⟨head, tail, same⟩ :=
            List.exists_cons_of_ne_nil (List.splitOn_ne_nil separator rest)
          rw [same] at member ih
          rcases List.mem_cons.1 member with rfl | later
          · rw [List.mem_cons, not_or]
            exact ⟨fun equal => differs (by simp [equal]), ih (by simp)⟩
          · exact ih (List.mem_cons_of_mem head later)

theorem joinWith_eq_intercalate (separator : List Char) (pieces : List (List Char)) :
    joinWith separator pieces = separator.intercalate pieces := by
  induction pieces with
  | nil => rfl
  | cons piece rest ih =>
      cases rest with
      | nil => simp [joinWith, List.intercalate]
      | cons next rest =>
          rw [joinWith, ih]
          simp [List.intercalate]

end Triage.Text
