import Mathlib.Data.List.Chain
import Triage.Proofs.Search.Cut
import Triage.Proofs.Text.Lower

/-!
# Free text

What is left over between operators keeps all its characters but the blanks, which become
single spaces.  If no quoted value runs into further text, no operator comes about where one
was taken out, so that free text stays as it is when it is parsed once more.
-/

namespace Triage

namespace Text

/-! ## Words with spaces between them -/

/-- A text without blanks at its ends, in which every other blank is a space and stands
alone. -/
structure SingleSpaced (characters : List Char) : Prop where
  starts : ∀ first ∈ characters.head?, isBlank first = false
  ends : ∀ last ∈ characters.getLast?, isBlank last = false
  spaces : ∀ part ∈ characters, isBlank part = true → part = ' '
  alone : characters.IsChain fun part next => isBlank part = true → isBlank next = false

variable {word rest : List Char} {parts : List (List Char)}

theorem SingleSpaced.of_solid (solid : ∀ part ∈ word, isBlank part = false) :
    SingleSpaced word where
  starts first member := solid first (List.mem_of_mem_head? member)
  ends last member := solid last (List.mem_of_getLast? member)
  spaces part member blank := by simp [solid part member] at blank
  alone := by
    refine (List.pairwise_of_forall_mem_list fun _ _ next member => ?_).isChain
    exact fun _ => solid next member

/-- A word and a space may stand in front of such a text. -/
theorem SingleSpaced.word_append (given : word ≠ []) (solid : ∀ part ∈ word, isBlank part = false)
    (spaced : SingleSpaced rest) (others : rest ≠ []) : SingleSpaced (word ++ ' ' :: rest) where
  starts first member := by
    rw [List.head?_append_of_ne_nil _ given] at member
    exact solid first (List.mem_of_mem_head? member)
  ends last member := by
    obtain ⟨next, others, rfl⟩ := List.exists_cons_of_ne_nil others
    rw [List.getLast?_append_cons, List.getLast?_cons_cons] at member
    exact spaced.ends last member
  spaces part member blank := by
    rcases List.mem_append.1 member with inside | later
    · simp [solid part inside] at blank
    · rcases List.mem_cons.1 later with rfl | behind
      · rfl
      · exact spaced.spaces part behind blank
  alone := by
    rw [List.isChain_append]
    refine ⟨(SingleSpaced.of_solid solid).alone, ?_, fun last member _ _ blank => ?_⟩
    · obtain ⟨next, others, rfl⟩ := List.exists_cons_of_ne_nil others
      exact List.isChain_cons_cons.2 ⟨fun _ => spaced.starts next (by simp), spaced.alone⟩
    · simp [solid last (List.mem_of_getLast? member)] at blank

theorem intercalate_ne_nil (given : ∀ part ∈ parts, part ≠ []) (some_part : parts ≠ []) :
    [' '].intercalate parts ≠ [] := by
  obtain ⟨part, others, rfl⟩ := List.exists_cons_of_ne_nil some_part
  cases others <;> simp [List.intercalate_cons_cons, given part]

/-- Words with a space between any two. -/
theorem singleSpaced_intercalate (given : ∀ part ∈ parts, part ≠ [])
    (solid : ∀ part ∈ parts, ∀ character ∈ part, isBlank character = false) :
    SingleSpaced ([' '].intercalate parts) := by
  induction parts with
  | nil => exact .of_solid (by simp)
  | cons part others ih =>
      rw [List.forall_mem_cons] at given solid
      by_cases alone : others = []
      · rw [alone, List.intercalate_singleton]
        exact .of_solid solid.1
      · rw [List.intercalate_cons_of_ne_nil alone, List.append_assoc]
        exact .word_append given.1 solid.1 (ih given.2 solid.2) (intercalate_ne_nil given.2 alone)

theorem filter_intercalate
    (solid : ∀ part ∈ parts, ∀ character ∈ part, isBlank character = false) :
    ([' '].intercalate parts).filter (!isBlank ·) = parts.flatten := by
  induction parts with
  | nil => rfl
  | cons part others ih =>
      rw [List.forall_mem_cons] at solid
      have whole : part.filter (!isBlank ·) = part :=
        List.filter_eq_self.2 (by simpa using solid.1)
      by_cases alone : others = []
      · simp [alone, whole]
      · rw [List.intercalate_cons_of_ne_nil alone, List.filter_append, List.filter_append,
          ih solid.2, whole]
        simp

end Text

namespace Search

variable {startAllowed : Bool} {characters : List Char} {segments : List Segment}

/-! ## What stands outside of operators -/

/-- What is left over of a text that is cut. -/
def remainder (segments : List Segment) : List Char :=
  leftOver (segments.map Segment.piece)

@[simp] theorem remainder_operator (term : Term) (written : List Char) :
    remainder (.operator term written :: segments) = ' ' :: remainder segments := rfl

@[simp] theorem remainder_outside (character : Char) :
    remainder (.outside character :: segments) = character :: remainder segments := rfl

theorem Cut.words_remainder {raw : String} (cut : Cut true raw.toList segments) :
    Text.words (remainder segments) = freeWords raw := by
  rw [remainder, cut.map_piece, freeWords]

/-- Only blanks come in addition to the characters outside of operators. -/
theorem filter_remainder (segments : List Segment) :
    (remainder segments).filter (!Text.isBlank ·) =
      (segments.filterMap Segment.outside?).filter (!Text.isBlank ·) := by
  induction segments with
  | nil => rfl
  | cons segment rest ih =>
      cases segment with
      | operator term written => simpa [Segment.outside?, List.filterMap_cons] using ih
      | outside character => simp [Segment.outside?, List.filter_cons, ih]

/-- Inside a word nothing is taken out up to the next blank. -/
theorem Cut.takeWhile_remainder (cut : Cut startAllowed characters segments)
    (inside : startAllowed = false) :
    (remainder segments).takeWhile (!Text.isBlank ·) =
      characters.takeWhile (!Text.isBlank ·) := by
  induction cut with
  | nothing => rfl
  | operator => cases inside
  | @outside startAllowed first rest segments without cut ih =>
      rw [remainder_outside, List.takeWhile_cons, List.takeWhile_cons]
      cases blank : Text.isBlank first with
      | true => rfl
      | false => rw [ih blank]

theorem Cut.startsBlank_remainder (cut : Cut startAllowed characters segments)
    (blank : StartsBlank characters) : StartsBlank (remainder segments) := by
  cases cut with
  | nothing => exact startsBlank_nil
  | operator => simp
  | outside => simpa using blank

/-! ## Words that are no operators -/

/-- A blank or the end of the text follows every operator with a value in quotes. -/
def QuotesEnd : List Segment → Prop
  | [] => True
  | .operator ⟨_, .quoted _⟩ _ :: rest => StartsBlank (rest.flatMap Segment.text) ∧ QuotesEnd rest
  | .operator ⟨_, .bare _⟩ _ :: rest => QuotesEnd rest
  | .outside _ :: rest => QuotesEnd rest

theorem QuotesEnd.tail {segment : Segment} (ends : QuotesEnd (segment :: segments)) :
    QuotesEnd segments := by
  match segment, ends with
  | .operator ⟨_, .quoted _⟩ _, ends => exact ends.2
  | .operator ⟨_, .bare _⟩ _, ends => exact ends
  | .outside _, ends => exact ends

/-- No key, colon and value make up the text. -/
def IsPlain (text : List Char) : Prop :=
  ∀ key first rest, IsKey key → text ≠ key ++ ':' :: first :: rest

/-- A word in front of which no operator is spelled is no operator. -/
theorem isPlain_of_not_spelled {run rest : List Char}
    (solid : ∀ character ∈ run, Text.isBlank character = false)
    (without : ∀ term written after, run ++ rest = written ++ after →
      ¬ Spelled term written after) : IsPlain run := by
  rintro key first others isKey rfl
  have none := term?_eq_none_iff_not_spelled.2 without
  rw [List.append_assoc, List.cons_append, term?_key isKey, Option.map_eq_none_iff,
    value?_eq_none, List.cons_append, startsBlank_cons, solid first (by simp)] at none
  cases none

/-- What follows an operator starts with a blank. -/
theorem startsBlank_of_spelled {term : Term} {written after : List Char}
    (spelled : Spelled term written after) (cut : Cut false after segments)
    (ends : QuotesEnd (.operator term written :: segments)) : StartsBlank after := by
  cases spelled with
  | quoted => simpa [cut.flatMap_text] using ends.1
  | bare isKey solid blank => exact blank

/-- Behind the run in which a text starts, and without that run if an operator can stand at the
start, all words that are left over are no operators. -/
theorem Cut.isPlain_of_mem_words (cut : Cut startAllowed characters segments)
    (ends : QuotesEnd segments) :
    (startAllowed = true → ∀ word ∈ Text.words (remainder segments), IsPlain word) ∧
      ∀ word ∈ Text.words ((remainder segments).dropWhile (!Text.isBlank ·)), IsPlain word := by
  induction cut with
  | nothing => simp [remainder, leftOver]
  | @operator term written after segments spelled cut ih =>
      have blank : StartsBlank (remainder segments) :=
        cut.startsBlank_remainder (startsBlank_of_spelled spelled cut ends)
      have later := (ih ends.tail).2
      rw [blank.dropWhile] at later
      simpa [Text.words_cons] using later
  | @outside startAllowed first rest segments without cut ih =>
      obtain ⟨start, behind⟩ := ih ends.tail
      rw [remainder_outside]
      cases blank : Text.isBlank first with
      | true =>
          have words := start blank
          simpa [blank, Text.words_cons blank] using ⟨fun _ => words, words⟩
      | false =>
          have run : first :: remainder segments =
              (first :: rest.takeWhile (!Text.isBlank ·)) ++
                (remainder segments).dropWhile (!Text.isBlank ·) := by
            rw [← cut.takeWhile_remainder blank, List.cons_append,
              List.takeWhile_append_dropWhile]
          refine ⟨fun allowed => ?_, by simpa [blank] using behind⟩
          have solid : ∀ character ∈ first :: rest.takeWhile (!Text.isBlank ·),
              Text.isBlank character = false := by
            simpa [blank] using solid_takeWhile rest
          rw [run, Text.words_append_of_solid (List.cons_ne_nil _ _) solid
            (startsBlank_dropWhile (remainder segments))]
          intro word member
          rcases List.mem_cons.1 member with rfl | later
          · have whole : first :: rest.takeWhile (!Text.isBlank ·) ++
                rest.dropWhile (!Text.isBlank ·) = first :: rest := by
              rw [List.cons_append, List.takeWhile_append_dropWhile]
            exact isPlain_of_not_spelled solid (whole ▸ without allowed)
          · exact behind word later

/-- Words that are no operators are written as items, each of them a word. -/
theorem exists_written_of_plain_words {words : List (List Char)}
    (given : ∀ word ∈ words, word ≠ [])
    (solid : ∀ word ∈ words, ∀ character ∈ word, Text.isBlank character = false)
    (plain : ∀ word ∈ words, IsPlain word) :
    ∃ items : List Item, items.filterMap Item.term? = [] ∧
      items.filterMap Item.word? = words ∧ Written items ([' '].intercalate words) := by
  induction words with
  | nil => exact ⟨[], rfl, rfl, .nothing⟩
  | cons word rest ih =>
      rw [List.forall_mem_cons] at given solid plain
      obtain ⟨items, none, same, written⟩ := ih given.2 solid.2 plain.2
      let item : Item := .word word given.1 solid.1 plain.1
      by_cases alone : rest = []
      · rw [alone, List.intercalate_singleton]
        exact ⟨[item], rfl, rfl, .last item⟩
      · refine ⟨item :: items, none, by rw [← same]; rfl, ?_⟩
        rw [List.intercalate_cons_of_ne_nil alone, List.append_assoc]
        exact .more item Gap.space written

/-- Words that are no operators are parsed as free text. -/
theorem parse_of_plain_words {words : List (List Char)} (given : ∀ word ∈ words, word ≠ [])
    (solid : ∀ word ∈ words, ∀ character ∈ word, Text.isBlank character = false)
    (plain : ∀ word ∈ words, IsPlain word) :
    parse (String.ofList ([' '].intercalate words)) =
      { freeText := String.ofList ([' '].intercalate words) } := by
  obtain ⟨items, none, same, written⟩ := exists_written_of_plain_words given solid plain
  obtain ⟨terms, free⟩ := written.read
  rw [none] at terms
  rw [same] at free
  simp [parse, terms, Text.collapseBlanks, Text.joinWith_eq_intercalate, free]

/-! ## Free text and operators -/

theorem ne_empty_of_mem_values {given : TermValue} {value : String}
    (member : value ∈ given.values) : value ≠ "" := by
  cases given with
  | quoted body =>
      rw [TermValue.values] at member
      split at member
      · cases member
      · next filled => simpa [List.mem_singleton.1 member] using filled
  | bare run =>
      obtain ⟨part, kept, rfl⟩ := List.mem_map.1 member
      simpa using (List.mem_filter.1 kept).2

/-- What is told of a key comes from operators with that key, and is something. -/
theorem exists_term_of_mem_operators {raw : String} {entry : String × List String}
    (member : entry ∈ (parse raw).operators) :
    (∃ term ∈ terms raw, entry.1 = term.name) ∧ entry.2 ≠ [] ∧
      ∀ value ∈ entry.2, value ≠ "" := by
  rw [operators_parse] at member
  obtain ⟨key, used, rfl⟩ := List.mem_map.1 member
  obtain ⟨values, given, filled⟩ := mem_usedKeys.1 used
  obtain ⟨term, present, same⟩ := List.mem_map.1 given
  refine ⟨⟨term, present, (congrArg Prod.fst same).symm⟩, fun none => ?_, fun value told => ?_⟩
  · exact filled (by simpa using List.flatMap_eq_nil_iff.1 none (key, values) given)
  · obtain ⟨other, known, inside⟩ := List.mem_flatMap.1 told
    obtain ⟨source, _, rfl⟩ := List.mem_map.1 known
    split at inside
    · exact ne_empty_of_mem_values inside
    · cases inside

theorem Cut.exists_operator {raw : String} (cut : Cut true raw.toList segments) {term : Term}
    (member : term ∈ terms raw) : ∃ written, Segment.operator term written ∈ segments := by
  rw [terms, ← cut.map_piece] at member
  clear cut
  induction segments with
  | nil => cases member
  | cons segment rest ih =>
      cases segment with
      | operator other written =>
          rcases List.mem_cons.1 member with rfl | later
          · exact ⟨written, List.mem_cons_self⟩
          · obtain ⟨found, present⟩ := ih later
            exact ⟨found, List.mem_cons_of_mem _ present⟩
      | outside character =>
          obtain ⟨found, present⟩ := ih member
          exact ⟨found, List.mem_cons_of_mem _ present⟩

/-- Free text is made of words with a space between any two, and but for blanks it is what
stands outside of the operators of the text.  The keys of operators are in lower case and
have values, of which none is empty.  If a blank or the end follows every value in quotes,
free text is parsed as itself. -/
theorem freeText_is_left_over (raw : String) :
    ∃ segments, Cut true raw.toList segments ∧
      (∀ others, Cut true raw.toList others → others = segments) ∧
      Text.SingleSpaced (parse raw).freeText.toList ∧
      (parse raw).freeText.toList.filter (!Text.isBlank ·) =
        (segments.filterMap Segment.outside?).filter (!Text.isBlank ·) ∧
      (∀ entry ∈ (parse raw).operators,
        Text.lower entry.1 = entry.1 ∧
          (∃ term written, .operator term written ∈ segments ∧
            entry.1 = Text.lower (String.ofList term.key)) ∧
          entry.2 ≠ [] ∧ ∀ value ∈ entry.2, value ≠ "") ∧
      (QuotesEnd segments → parse (parse raw).freeText = { freeText := (parse raw).freeText }) := by
  obtain ⟨segments, cut⟩ := exists_cut true raw.toList
  have given : ∀ word ∈ freeWords raw, word ≠ [] := fun _ => Text.ne_nil_of_mem_words
  have solid : ∀ word ∈ freeWords raw, ∀ character ∈ word, Text.isBlank character = false :=
    fun _ => Text.solid_of_mem_words
  refine ⟨segments, cut, fun others => cut.unique, ?_, ?_, fun entry member => ?_, fun ends => ?_⟩
  · rw [freeText_parse, String.toList_ofList]
    exact Text.singleSpaced_intercalate given solid
  · rw [freeText_parse, String.toList_ofList, Text.filter_intercalate solid, ← cut.words_remainder,
      Text.flatten_words, filter_remainder]
  · obtain ⟨⟨term, present, named⟩, filled⟩ := exists_term_of_mem_operators member
    obtain ⟨written, inside⟩ := cut.exists_operator present
    have lowered : entry.1 = Text.lower (String.ofList term.key) := by
      rw [named, Term.name, Text.lower, String.toList_ofList]
    exact ⟨by rw [lowered, Text.lower_lower], ⟨term, written, inside, lowered⟩, filled⟩
  · rw [freeText_parse]
    have plain := (cut.isPlain_of_mem_words ends).1 rfl
    rw [cut.words_remainder] at plain
    exact parse_of_plain_words given solid plain

theorem Segment.piece_eq_character {segment : Segment} {character : Char} :
    segment.piece = .character character ↔ segment = .outside character := by
  cases segment <;> simp [Segment.piece]

theorem Segment.piece_eq_term {segment : Segment} {term : Term} :
    segment.piece = .term term ↔ ∃ written, segment = .operator term written := by
  cases segment <;> simp [Segment.piece]

/-- A value in quotes with a line break behind it, one with a quote that nothing closes, and a key
that waits for its value. -/
theorem freeText_between_values :
    let raw := "Is:\"a b\"\n-k:'it x:"
    ∃ segments, Cut true raw.toList segments ∧ QuotesEnd segments ∧
      (parse raw).operators = [("is", ["a b"]), ("-k", ["'it"])] ∧
      (parse raw).freeText = "x:" ∧ parse "x:" = { freeText := "x:" } := by
  intro raw
  obtain ⟨segments, cut, _, _, _, _, again⟩ := freeText_is_left_over raw
  have read : pieces true raw.toList =
      [.term ⟨"Is".toList, .quoted "a b".toList⟩, .character '\n',
        .term ⟨"-k".toList, .bare "'it".toList⟩, .character ' ', .character 'x',
        .character ':'] := by
    decide +kernel
  obtain ⟨first, second, listed⟩ : ∃ first second, segments =
      [.operator ⟨"Is".toList, .quoted "a b".toList⟩ first, .outside '\n',
        .operator ⟨"-k".toList, .bare "'it".toList⟩ second, .outside ' ', .outside 'x',
        .outside ':'] := by
    simpa [List.map_eq_cons_iff, Segment.piece_eq_character, Segment.piece_eq_term] using
      cut.map_piece.trans read
  have ends : QuotesEnd segments := by
    rw [listed]
    exact ⟨startsBlank_cons.2 (by decide), trivial⟩
  have free : (parse raw).freeText = "x:" := by decide +kernel
  have reparsed := again ends
  rw [free] at reparsed
  exact ⟨segments, cut, ends, by decide +kernel, free, reparsed⟩

end Search

end Triage
