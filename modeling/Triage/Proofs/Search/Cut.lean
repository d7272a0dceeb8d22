import Triage.Proofs.Search.Written

/-!
# How a text is cut

Where operators stand in a text is told by its grammar, apart from any reader: going from
the left, an operator is taken wherever one can stand and is spelled, and every other
character is left outside.  A text can be cut in one way only, and this is how it is read.
-/

namespace Triage.Search

variable {characters after written : List Char} {term : Term}

/-! ## Operators in front of a text -/

/-- An operator as it is written in front of `after`.  A value in quotes goes up to the first
quote that closes it; any other goes up to the next blank, and starts with a quote only if
nothing closes this one. -/
inductive Spelled : Term → List Char → List Char → Prop where
  | quoted {key body after : List Char} {mark : Char} (isKey : IsKey key)
      (isMark : mark = '"' ∨ mark = '\'') (within : mark ∉ body) :
      Spelled ⟨key, .quoted body⟩ (key ++ ':' :: mark :: (body ++ [mark])) after
  | bare {key after rest : List Char} {first : Char} (isKey : IsKey key)
      (solid : ∀ character ∈ first :: rest, Text.isBlank character = false)
      (ends : StartsBlank after)
      (unclosed : first = '"' ∨ first = '\'' → first ∉ rest ++ after) :
      Spelled ⟨key, .bare (first :: rest)⟩ (key ++ ':' :: first :: rest) after

theorem closeQuote?_eq_some {mark : Char} {body : List Char}
    (found : closeQuote? mark characters = some (body, after)) :
    characters = body ++ mark :: after ∧ mark ∉ body := by
  induction characters generalizing body with
  | nil => cases found
  | cons first rest ih =>
      rw [closeQuote?] at found
      split at found
      · next same =>
          cases found
          exact ⟨by rw [beq_iff_eq.1 same, List.nil_append], List.not_mem_nil⟩
      · next differs =>
          obtain ⟨⟨inner, remaining⟩, inside, equal⟩ := Option.map_eq_some_iff.1 found
          cases equal
          obtain ⟨whole, within⟩ := ih inside
          refine ⟨by rw [whole, List.cons_append], ?_⟩
          rw [List.mem_cons, not_or]
          exact ⟨fun same => differs (by simp [same]), within⟩

theorem closeQuote?_eq_none {mark : Char} :
    closeQuote? mark characters = none ↔ mark ∉ characters := by
  constructor
  · intro none member
    obtain ⟨front, back, rfl, within⟩ := List.eq_append_cons_of_mem member
    rw [closeQuote?_of_not_mem within] at none
    cases none
  · intro absent
    by_contra given
    obtain ⟨⟨body, rest⟩, found⟩ := Option.ne_none_iff_exists'.1 given
    exact absent (by simp [(closeQuote?_eq_some found).1])

theorem bareValue?_eq_some {value : TermValue}
    (found : bareValue? characters = some (value, after)) :
    ∃ first rest, value = .bare (first :: rest) ∧ characters = first :: rest ++ after ∧
      (∀ character ∈ first :: rest, Text.isBlank character = false) ∧ StartsBlank after := by
  have whole := List.takeWhile_append_dropWhile (p := (!Text.isBlank ·)) (l := characters)
  have solid := solid_takeWhile characters
  rw [bareValue?] at found
  cases taken : characters.takeWhile (!Text.isBlank ·) with
  | nil => simp [taken] at found
  | cons first rest =>
      rw [taken] at found whole solid
      cases found
      exact ⟨first, rest, rfl, whole.symm, solid, startsBlank_dropWhile characters⟩

/-- What is read in front of a text is what is spelled there. -/
theorem term?_eq_some :
    term? characters = some (term, after) ↔
      ∃ written, characters = written ++ after ∧ Spelled term written after := by
  constructor
  · intro found
    obtain ⟨valued, isKey, rfl, read⟩ := exists_of_term? found
    obtain ⟨key, value⟩ := term
    cases valued with
    | nil => cases read
    | cons mark rest =>
        rw [value?] at read
        split at read
        · next quote =>
            have isMark : mark = '"' ∨ mark = '\'' := by simpa using quote
            split at read
            · next body remaining closed =>
                cases read
                obtain ⟨rfl, within⟩ := closeQuote?_eq_some closed
                exact ⟨_, by simp, .quoted isKey isMark within⟩
            · next unclosed =>
                obtain ⟨first, run, rfl, same, solid, ends⟩ := bareValue?_eq_some read
                obtain ⟨rfl, rfl⟩ := List.cons_eq_cons.1 same
                exact ⟨_, by simp, .bare isKey solid ends fun _ => closeQuote?_eq_none.1 unclosed⟩
        · next plain =>
            obtain ⟨first, run, rfl, same, solid, ends⟩ := bareValue?_eq_some read
            obtain ⟨rfl, rfl⟩ := List.cons_eq_cons.1 same
            have unquoted : ¬ (mark = '"' ∨ mark = '\'') := by simpa using plain
            exact ⟨_, by simp, .bare isKey solid ends fun isMark => absurd isMark unquoted⟩
  · rintro ⟨written, rfl, spelled⟩
    cases spelled with
    | @quoted key body _ mark isKey isMark within =>
        have valued : value? (mark :: (body ++ mark :: after)) = some (.quoted body, after) :=
          value?_of_quoted isMark within
        simp [term?_key isKey, valued]
    | @bare key _ rest first isKey solid ends unclosed =>
        have read : bareValue? (first :: rest ++ after) = some (.bare (first :: rest), after) :=
          bareValue?_of_solid (List.cons_ne_nil first rest) solid ends
        have valued : value? (first :: (rest ++ after)) = some (.bare (first :: rest), after) := by
          rw [value?]
          split
          · next quote => rw [closeQuote?_eq_none.2 (unclosed (by simpa using quote)), ← read]; rfl
          · exact read
        simp [term?_key isKey, valued]

/-! ## The whole text -/

/-- A part of a text: an operator as it is written, or a character outside of operators. -/
inductive Segment where
  | operator (term : Term) (written : List Char)
  | outside (character : Char)

namespace Segment

/-- The characters of the text that a segment takes. -/
def text : Segment → List Char
  | operator _ written => written
  | outside character => [character]

/-- The character outside of operators. -/
def outside? : Segment → Option Char
  | operator _ _ => none
  | outside character => some character

/-- What is read of a segment. -/
def piece : Segment → Piece
  | operator term _ => .term term
  | outside character => .character character

end Segment

/-- A text with an operator wherever one can stand and is spelled, from the left.  An operator
can stand at the start of the text, which is told by `startAllowed`, and behind a blank. -/
inductive Cut : Bool → List Char → List Segment → Prop where
  | nothing {startAllowed : Bool} : Cut startAllowed [] []
  | operator {term : Term} {written after : List Char} {segments : List Segment}
      (spelled : Spelled term written after) (others : Cut false after segments) :
      Cut true (written ++ after) (.operator term written :: segments)
  | outside {startAllowed : Bool} {first : Char} {rest : List Char} {segments : List Segment}
      (without : startAllowed = true → ∀ term written after, first :: rest = written ++ after →
        ¬ Spelled term written after)
      (others : Cut (Text.isBlank first) rest segments) :
      Cut startAllowed (first :: rest) (.outside first :: segments)

variable {startAllowed : Bool} {segments : List Segment}

theorem term?_eq_none_iff_not_spelled :
    term? characters = none ↔
      ∀ term written after, characters = written ++ after → ¬ Spelled term written after := by
  constructor
  · intro none term written after same spelled
    rw [term?_eq_some.2 ⟨written, same, spelled⟩] at none
    cases none
  · intro without
    by_contra given
    obtain ⟨⟨term, after⟩, found⟩ := Option.ne_none_iff_exists'.1 given
    obtain ⟨written, same, spelled⟩ := term?_eq_some.1 found
    exact without term written after same spelled

/-- The segments of a text make it up. -/
theorem Cut.flatMap_text (cut : Cut startAllowed characters segments) :
    segments.flatMap Segment.text = characters := by
  induction cut with
  | nothing => rfl
  | operator spelled others ih => rw [List.flatMap_cons, ih]; rfl
  | outside without others ih => rw [List.flatMap_cons, ih]; rfl

/-- A text is read as it is cut. -/
theorem Cut.map_piece (cut : Cut startAllowed characters segments) :
    segments.map Segment.piece = pieces startAllowed characters := by
  induction cut with
  | nothing => rw [pieces_nil, List.map_nil]
  | operator spelled others ih =>
      rw [pieces_of_term?_append (term?_eq_some.2 ⟨_, rfl, spelled⟩), List.map_cons, ih]
      rfl
  | outside without others ih =>
      rw [pieces_character fun allowed => term?_eq_none_iff_not_spelled.2 (without allowed),
        List.map_cons, ih]
      rfl

/-- Every text can be cut. -/
theorem exists_cut (startAllowed : Bool) (characters : List Char) :
    ∃ segments, Cut startAllowed characters segments := by
  fun_induction pieces startAllowed characters with
  | case1 startAllowed => exact ⟨[], .nothing⟩
  | case2 first rest term after found ih =>
      obtain ⟨segments, cut⟩ := ih
      obtain ⟨written, same, spelled⟩ := term?_eq_some.1 found
      rw [same]
      exact ⟨_, .operator spelled cut⟩
  | case3 first rest none ih =>
      obtain ⟨segments, cut⟩ := ih
      exact ⟨_, .outside (fun _ => term?_eq_none_iff_not_spelled.1 none) cut⟩
  | case4 startAllowed first rest forbidden ih =>
      obtain ⟨segments, cut⟩ := ih
      exact ⟨_, .outside (fun allowed => absurd allowed forbidden) cut⟩

/-- A text can be cut in one way only. -/
theorem Cut.unique (cut : Cut startAllowed characters segments) {others : List Segment}
    (other : Cut startAllowed characters others) : others = segments := by
  induction cut generalizing others with
  | nothing =>
      generalize whole : [] = characters at other
      cases other with
      | nothing => rfl
      | operator spelled => cases term?_eq_some.2 ⟨_, whole, spelled⟩
      | outside => cases whole
  | @operator term written after segments spelled cut ih =>
      have found : term? (written ++ after) = some (term, after) :=
        term?_eq_some.2 ⟨written, rfl, spelled⟩
      generalize whole : written ++ after = characters at other found
      cases other with
      | nothing => cases found
      | @operator term' written' after' segments' spelled' cut' =>
          rw [term?_eq_some.2 ⟨written', rfl, spelled'⟩] at found
          cases found
          rw [ih cut', List.append_cancel_right whole]
      | outside without => exact absurd spelled (without rfl term written after whole.symm)
  | @outside startAllowed first rest segments without cut ih =>
      generalize whole : first :: rest = characters at other
      cases other with
      | nothing => cases whole
      | operator spelled => exact absurd spelled (without rfl _ _ _ whole)
      | outside _ cut' =>
          cases whole
          rw [ih cut']

end Triage.Search
