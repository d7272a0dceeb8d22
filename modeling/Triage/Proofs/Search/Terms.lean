import Mathlib.Data.List.TakeWhile
import Triage.Proofs.Text.Words
import Triage.Search.Terms

/-!
# Operators in a text

An operator is a key, a colon and a value, and what may follow it is nothing or a blank.
Text behind a blank changes neither the operators in front of the blank nor the characters
between them, unless a quote is left open in front of it.
-/

namespace Triage.Search

variable {characters after tail written key : List Char} {test : Char → Bool}

/-- The text is empty or starts with a blank. -/
def StartsBlank (text : List Char) : Prop :=
  ∀ first ∈ text.head?, Text.isBlank first = true

@[simp] theorem startsBlank_nil : StartsBlank [] := by simp [StartsBlank]

@[simp] theorem startsBlank_cons {first : Char} {rest : List Char} :
    StartsBlank (first :: rest) ↔ Text.isBlank first = true := by
  simp [StartsBlank]

/-- The run in which a text starts ends in front of a blank or at the end. -/
theorem startsBlank_dropWhile (text : List Char) :
    StartsBlank (text.dropWhile (!Text.isBlank ·)) := by
  intro first member
  have stop := List.head?_dropWhile_not (!Text.isBlank ·) text
  rw [Option.mem_def.1 member] at stop
  simpa using stop

theorem solid_takeWhile (text : List Char) :
    ∀ character ∈ text.takeWhile (!Text.isBlank ·), Text.isBlank character = false :=
  fun character member => by simpa using List.mem_takeWhile_imp member

theorem StartsBlank.dropWhile (blank : StartsBlank tail) :
    tail.dropWhile (!Text.isBlank ·) = tail := by
  cases tail with
  | nil => rfl
  | cons first rest => exact List.dropWhile_cons_of_neg (by simpa using blank)

theorem takeWhile_append_of_stop (stop : ∀ first ∈ tail.head?, test first = false) :
    (characters ++ tail).takeWhile test = characters.takeWhile test := by
  induction characters with
  | nil => cases tail <;> simp_all
  | cons first rest ih => rw [List.cons_append, List.takeWhile_cons, List.takeWhile_cons, ih]

theorem dropWhile_append_of_stop (stop : ∀ first ∈ tail.head?, test first = false) :
    (characters ++ tail).dropWhile test = characters.dropWhile test ++ tail := by
  induction characters with
  | nil => cases tail <;> simp_all
  | cons first rest ih =>
      rw [List.cons_append, List.dropWhile_cons, List.dropWhile_cons, ih]
      split <;> rfl

/-! ## Values -/

/-- A quote that is not closed begins the value. -/
def TermValue.isOpen : TermValue → Bool
  | .quoted _ => false
  | .bare run => run.head?.any fun first => first == '"' || first == '\''

theorem StartsBlank.stop (blank : StartsBlank tail) :
    ∀ first ∈ tail.head?, (!Text.isBlank first) = false := by
  simpa [StartsBlank] using blank

theorem bareValue?_append (blank : StartsBlank tail) :
    bareValue? (characters ++ tail) =
      (bareValue? characters).map fun found => (found.1, found.2 ++ tail) := by
  rw [bareValue?, bareValue?, takeWhile_append_of_stop blank.stop,
    dropWhile_append_of_stop blank.stop]
  split <;> simp_all

theorem bareValue?_eq_none : bareValue? characters = none ↔ StartsBlank characters := by
  cases characters with
  | nil => simp [bareValue?]
  | cons first rest => by_cases blank : Text.isBlank first = true <;> simp [bareValue?, blank]

theorem isBlank_of_quote {first : Char} (quote : (first == '"' || first == '\'') = true) :
    Text.isBlank first = false := by
  rcases Bool.or_eq_true_iff.1 quote with same | same
  all_goals
    rw [beq_iff_eq.1 same]
    decide

/-- The value up to the next blank starts as the text does. -/
theorem isOpen_of_bareValue? {first : Char} {rest : List Char} {value : TermValue}
    (quote : (first == '"' || first == '\'') = true)
    (found : bareValue? (first :: rest) = some (value, after)) : value.isOpen = true := by
  simp only [bareValue?, List.takeWhile_cons, isBlank_of_quote quote, Bool.not_false,
    if_true] at found
  cases found
  simpa [TermValue.isOpen] using quote

theorem closeQuote?_append {quote : Char} {body : List Char}
    (found : closeQuote? quote characters = some (body, after)) :
    closeQuote? quote (characters ++ tail) = some (body, after ++ tail) := by
  induction characters generalizing body with
  | nil => cases found
  | cons first rest ih =>
      rw [closeQuote?] at found
      rw [List.cons_append, closeQuote?]
      split at found
      · next same =>
          cases found
          rw [if_pos same]
      · next differs =>
          obtain ⟨⟨inner, remaining⟩, inside, equal⟩ := Option.map_eq_some_iff.1 found
          cases equal
          rw [if_neg differs, ih inside]
          rfl

/-- A value stays the same with a text behind it, unless a quote is left open. -/
theorem value?_append {value : TermValue} (found : value? characters = some (value, after))
    (closed : value.isOpen = false) (blank : StartsBlank tail) :
    value? (characters ++ tail) = some (value, after ++ tail) := by
  cases characters with
  | nil => cases found
  | cons first rest =>
      rw [value?] at found
      rw [List.cons_append, value?]
      split at found
      · next quote =>
          rw [if_pos quote]
          split at found
          · next body remaining inside =>
              cases found
              rw [closeQuote?_append inside]
          · rw [isOpen_of_bareValue? quote found] at closed
            cases closed
      · next plain =>
          rw [if_neg plain, ← List.cons_append, bareValue?_append blank, found]
          rfl

/-- There is no value where the text is empty or starts with a blank. -/
theorem value?_eq_none : value? characters = none ↔ StartsBlank characters := by
  cases characters with
  | nil => simp [value?]
  | cons first rest =>
      rw [value?, ← bareValue?_eq_none]
      split
      · next quote =>
          split
          · simp [bareValue?_eq_none, isBlank_of_quote quote]
          · rfl
      · rfl

/-! ## Keys -/

/-- A key as it is written: word characters, possibly behind a minus sign. -/
def IsKey (key : List Char) : Prop :=
  ∃ name, (key = name ∨ key = '-' :: name) ∧ name ≠ [] ∧
    ∀ character ∈ name, Text.isWord character = true

theorem isBlank_of_isWord {character : Char} (word : Text.isWord character = true) :
    Text.isBlank character = false := by
  rw [Bool.eq_false_iff]
  intro blank
  rw [Text.isWord_of_isBlank blank] at word
  cases word

/-- No character of a key is a blank. -/
theorem IsKey.solid (isKey : IsKey key) : ∀ character ∈ key, Text.isBlank character = false := by
  obtain ⟨name, rfl | rfl, _, word⟩ := isKey
  · exact fun character member => isBlank_of_isWord (word character member)
  · intro character member
    rcases List.mem_cons.1 member with rfl | inside
    · decide
    · exact isBlank_of_isWord (word character inside)

/-- The minus sign is all that is taken off. -/
theorem takeSign_cases (characters : List Char) :
    (takeSign characters).1 = [] ∧ characters = (takeSign characters).2 ∨
      (takeSign characters).1 = ['-'] ∧ characters = '-' :: (takeSign characters).2 := by
  unfold takeSign
  split
  · simp
  · split <;> simp_all

theorem isKey_of_takeSign (given : (takeSign key).2 ≠ [])
    (word : ∀ character ∈ (takeSign key).2, Text.isWord character = true) : IsKey key :=
  ⟨_, (takeSign_cases key).imp And.right And.right, given, word⟩

theorem takeSign_of_word {name : List Char} (given : name ≠ [])
    (word : ∀ character ∈ name, Text.isWord character = true) :
    takeSign (name ++ tail) = ([], name ++ tail) := by
  obtain ⟨first, rest, rfl⟩ := List.exists_cons_of_ne_nil given
  have plain : first ≠ '-' := by
    rintro rfl
    exact absurd (word '-' (by simp)) (by decide)
  rw [List.cons_append, takeSign, if_neg (by simpa using plain)]

/-- A key and a colon make an operator of the value behind them. -/
theorem term?_key (isKey : IsKey key) (written : List Char) :
    term? (key ++ ':' :: written) =
      (value? written).map fun found => (⟨key, found.1⟩, found.2) := by
  obtain ⟨name, form, given, word⟩ := isKey
  have sign : ∃ sign, takeSign (key ++ ':' :: written) = (sign, name ++ ':' :: written) ∧
      key = sign ++ name := by
    rcases form with rfl | rfl
    · exact ⟨[], takeSign_of_word given word, rfl⟩
    · exact ⟨['-'], rfl, rfl⟩
  obtain ⟨sign, signed, rfl⟩ := sign
  have taken : (name ++ ':' :: written).takeWhile Text.isWord = name := by
    rw [List.takeWhile_append_of_pos word, List.takeWhile_cons_of_neg (by decide),
      List.append_nil]
  have dropped : (name ++ ':' :: written).dropWhile Text.isWord = ':' :: written := by
    rw [List.dropWhile_append_of_pos word, List.dropWhile_cons_of_neg (by decide)]
  obtain ⟨first, rest, rfl⟩ := List.exists_cons_of_ne_nil given
  simp only [term?, signed, taken, dropped]
  rfl

/-- An operator in front of a text is a key, a colon and a value. -/
theorem exists_of_term? {term : Term} (found : term? characters = some (term, after)) :
    ∃ written, IsKey term.key ∧ characters = term.key ++ ':' :: written ∧
      value? written = some (term.value, after) := by
  have whole := List.takeWhile_append_dropWhile (p := Text.isWord) (l := (takeSign characters).2)
  simp only [term?] at found
  cases taken : (takeSign characters).2.takeWhile Text.isWord with
  | nil => simp [taken] at found
  | cons first rest =>
      cases dropped : (takeSign characters).2.dropWhile Text.isWord with
      | nil => simp [taken, dropped] at found
      | cons mark written =>
          simp only [taken, dropped] at found whole
          split at found
          · next colon =>
              obtain ⟨⟨value, remaining⟩, inside, equal⟩ := Option.map_eq_some_iff.1 found
              cases equal
              have word : ∀ character ∈ first :: rest, Text.isWord character = true := by
                rw [← taken]
                exact fun character member => List.mem_takeWhile_imp member
              rw [beq_iff_eq.1 colon] at whole
              refine ⟨written, ?_⟩
              rcases takeSign_cases characters with ⟨sign, same⟩ | ⟨sign, same⟩
              · rw [sign, same, ← whole]
                exact ⟨⟨first :: rest, .inl rfl, by simp, word⟩, rfl, inside⟩
              · rw [sign, same, ← whole]
                exact ⟨⟨first :: rest, .inr rfl, by simp, word⟩, rfl, inside⟩
          · cases found

theorem term?_append {term : Term} (found : term? characters = some (term, after))
    (closed : term.value.isOpen = false) (blank : StartsBlank tail) :
    term? (characters ++ tail) = some (term, after ++ tail) := by
  obtain ⟨written, isKey, rfl, valued⟩ := exists_of_term? found
  rw [List.append_assoc, List.cons_append, term?_key isKey, value?_append valued closed blank]
  rfl

/-- A colon that comes before all blanks stands in front of the blank that ends a text. -/
theorem exists_of_append_eq (solid : ∀ character ∈ key, Text.isBlank character = false)
    (blank : StartsBlank tail) (same : characters ++ tail = key ++ ':' :: written) :
    ∃ rest, characters = key ++ ':' :: rest ∧ written = rest ++ tail := by
  rw [← List.singleton_append, ← List.append_assoc] at same
  rcases List.append_eq_append_iff.1 same with ⟨rest, front, back⟩ | ⟨rest, front, back⟩
  · cases rest with
    | nil => exact ⟨[], by simpa using front.symm, by simpa using back.symm⟩
    | cons first rest =>
        have opening : Text.isBlank first = true := by simpa [back] using blank
        have inside : first ∈ key ++ [':'] := front ▸ by simp
        rcases List.mem_append.1 inside with member | member
        · exact absurd rfl (Text.ne_of_isBlank opening (solid first member))
        · simp [List.mem_singleton.1 member] at opening
  · exact ⟨rest, by rw [front, List.append_assoc]; rfl, back⟩

/-- Text behind a blank does not make an operator of what is none. -/
theorem term?_append_eq_none (without : term? characters = none) (blank : StartsBlank tail) :
    term? (characters ++ tail) = none := by
  by_contra given
  obtain ⟨⟨term, after⟩, found⟩ := Option.ne_none_iff_exists'.1 given
  obtain ⟨written, isKey, same, valued⟩ := exists_of_term? found
  obtain ⟨rest, rfl, rfl⟩ := exists_of_append_eq isKey.solid blank same
  rw [term?_key isKey, Option.map_eq_none_iff, value?_eq_none] at without
  have parted : StartsBlank (rest ++ tail) := by
    cases rest with
    | nil => exact blank
    | cons first rest => simpa using without
  rw [value?_eq_none.2 parted] at valued
  cases valued

/-! ## Pieces -/

theorem pieces_term {first : Char} {rest : List Char} {term : Term}
    (found : term? (first :: rest) = some (term, after)) :
    pieces true (first :: rest) = .term term :: pieces false after := by
  rw [pieces, if_pos rfl]
  split
  · next other remaining same =>
      rw [found] at same
      cases same
      rfl
  · next none =>
      rw [found] at none
      cases none

theorem pieces_character {startAllowed : Bool} {first : Char} {rest : List Char}
    (none : startAllowed = true → term? (first :: rest) = none) :
    pieces startAllowed (first :: rest) =
      .character first :: pieces (Text.isBlank first) rest := by
  rw [pieces]
  split
  · next allowed =>
      split
      · next term remaining found =>
          rw [none allowed] at found
          cases found
      · rfl
  · rfl

theorem term?_of_startsBlank (blank : StartsBlank characters) : term? characters = none := by
  have nothing : term? [] = none := rfl
  simpa using term?_append_eq_none nothing blank

/-- No operator starts at a blank. -/
theorem pieces_blank {startAllowed : Bool} {first : Char} {rest : List Char}
    (blank : Text.isBlank first = true) :
    pieces startAllowed (first :: rest) = .character first :: pieces true rest := by
  rw [pieces_character fun _ => term?_of_startsBlank (by simpa using blank), blank]

@[simp] theorem termsOf_append (front back : List Piece) :
    termsOf (front ++ back) = termsOf front ++ termsOf back := by
  induction front with
  | nil => rfl
  | cons piece rest ih => cases piece <;> simp [termsOf, ih]

@[simp] theorem leftOver_append (front back : List Piece) :
    leftOver (front ++ back) = leftOver front ++ leftOver back := by
  induction front with
  | nil => rfl
  | cons piece rest ih => cases piece <;> simp [leftOver, ih]

/-- The pieces of a text that goes on behind a blank are those of the part in front of the
blank, the blank, and those of the part behind it, unless the front leaves a quote open. -/
theorem pieces_append_cons {startAllowed : Bool} {blank : Char}
    (isBlank : Text.isBlank blank = true)
    (closed : ∀ term ∈ termsOf (pieces startAllowed characters), term.value.isOpen = false) :
    pieces startAllowed (characters ++ blank :: tail) =
      pieces startAllowed characters ++ .character blank :: pieces true tail := by
  have parts : StartsBlank (blank :: tail) := by simpa using isBlank
  -- an operator ends in front of the blank, since its value is closed, and what is no
  -- operator does not become one by what follows the blank
  fun_induction pieces startAllowed characters with
  | case1 startAllowed => exact pieces_blank isBlank
  | case2 first rest term after found ih =>
      have appended := term?_append found (closed term (by simp [termsOf])) parts
      have others := ih fun other member => closed other (by simp [termsOf, member])
      rw [List.cons_append] at appended ⊢
      rw [pieces_term appended, others, List.cons_append]
  | case3 first rest without ih =>
      have appended := term?_append_eq_none without parts
      rw [List.cons_append] at appended ⊢
      rw [pieces_character fun _ => appended, ih closed, List.cons_append]
  | case4 startAllowed first rest forbidden ih =>
      rw [List.cons_append, pieces_character fun allowed => absurd allowed forbidden, ih closed,
        List.cons_append]

/-! ## Gaps -/

/-- Blanks between two texts. -/
structure Gap where
  characters : List Char
  given : characters ≠ []
  blank : ∀ character ∈ characters, Text.isBlank character = true

/-- The blanks as a text. -/
def Gap.text (gap : Gap) : String :=
  String.ofList gap.characters

@[simp] theorem Gap.toList_text (gap : Gap) : gap.text.toList = gap.characters :=
  String.toList_ofList

/-- A single space. -/
def Gap.space : Gap := ⟨[' '], by simp, by simp⟩

theorem Gap.text_space : Gap.space.text = " " := by decide

theorem pieces_blanks {gap : List Char} (blank : ∀ first ∈ gap, Text.isBlank first = true) :
    pieces true (gap ++ tail) = gap.map .character ++ pieces true tail := by
  induction gap with
  | nil => rfl
  | cons first rest ih =>
      rw [List.cons_append, pieces_blank (blank first (by simp)),
        ih fun other member => blank other (by simp [member])]
      rfl

theorem pieces_gap {startAllowed : Bool} (gap : Gap) :
    pieces startAllowed (gap.characters ++ tail) =
      gap.characters.map .character ++ pieces true tail := by
  obtain ⟨_ | ⟨first, rest⟩, given, blank⟩ := gap
  · exact absurd rfl given
  · rw [List.cons_append, pieces_blank (blank first (by simp)),
      pieces_blanks fun other member => blank other (by simp [member])]
    rfl

/-- The pieces of two texts with a gap between them. -/
theorem pieces_join {startAllowed : Bool} (gap : Gap)
    (closed : ∀ term ∈ termsOf (pieces startAllowed characters), term.value.isOpen = false) :
    pieces startAllowed (characters ++ (gap.characters ++ tail)) =
      pieces startAllowed characters ++ (gap.characters.map .character ++ pieces true tail) := by
  have start := @pieces_gap tail true gap
  obtain ⟨_ | ⟨first, rest⟩, given, blank⟩ := gap
  · exact absurd rfl given
  · rw [List.cons_append, pieces_blank (blank first (by simp))] at start
    rw [List.cons_append, pieces_append_cons (blank first (by simp)) closed, start]

@[simp] theorem termsOf_map_character (characters : List Char) :
    termsOf (characters.map .character) = [] := by
  induction characters with
  | nil => rfl
  | cons first rest ih => exact ih

@[simp] theorem leftOver_map_character (characters : List Char) :
    leftOver (characters.map .character) = characters := by
  induction characters with
  | nil => rfl
  | cons first rest ih => exact congrArg (first :: ·) ih

end Triage.Search
