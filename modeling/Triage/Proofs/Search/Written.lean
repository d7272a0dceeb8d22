import Triage.Proofs.Keyed
import Triage.Proofs.Search.Join

/-!
# Written search texts

A search text is written as operators and words with blanks between them.  Parsing it gives
back these operators, collected by key, and these words.
-/

namespace Triage.Search

variable {characters after : List Char}

/-! ## Collecting what operators say -/

/-- The keys that are given a value, each where this is first so. -/
def usedKeys (entries : List (String × List String)) : List String :=
  ((entries.filter (!·.2.isEmpty)).map Prod.fst).eraseDups

theorem mem_usedKeys {entries : List (String × List String)} {key : String} :
    key ∈ usedKeys entries ↔ ∃ values, (key, values) ∈ entries ∧ values ≠ [] := by
  simp [usedKeys, List.mem_eraseDups]

theorem usedKeys_append_singleton (entries : List (String × List String))
    (entry : String × List String) :
    usedKeys (entries ++ [entry]) =
      if entry.2 = [] ∨ entry.1 ∈ usedKeys entries then usedKeys entries
      else usedKeys entries ++ [entry.1] := by
  by_cases none : entry.2 = []
  · simp [usedKeys, none]
  · have added : [entry].filter (!·.2.isEmpty) = [entry] := by simp [none]
    rw [usedKeys, List.filter_append, List.map_append, List.eraseDups_append, added, usedKeys]
    by_cases known : entry.1 ∈ (entries.filter (!·.2.isEmpty)).map Prod.fst <;>
      simp [List.removeAll, List.eraseDups_cons, none, known]

theorem map_fst_foldl_addTerm (found : List Term) :
    (found.foldl addTerm []).map Prod.fst = usedKeys (found.map Term.entry) := by
  induction found using List.reverseRecOn with
  | nil => rfl
  | append_singleton found term ih =>
      rw [List.foldl_append, List.foldl_cons, List.foldl_nil, List.map_append,
        List.map_singleton, usedKeys_append_singleton, ← ih, Term.entry, addTerm]
      split
      · next none => simp [none]
      · next filled =>
          have given : term.value.values ≠ [] := filled
          rw [addValues_eq_put, Keyed.map_fst_put]
          simp only [given, false_or, List.contains_iff_mem]

theorem nodup_addTerm {operators : List (String × List String)}
    (distinct : (operators.map Prod.fst).Nodup) (term : Term) :
    ((addTerm operators term).map Prod.fst).Nodup := by
  unfold addTerm
  split
  · exact distinct
  · rw [addValues_eq_put]
    exact Keyed.nodup_put distinct _ _

theorem nodup_foldl_addTerm {operators : List (String × List String)}
    (distinct : (operators.map Prod.fst).Nodup) (found : List Term) :
    ((found.foldl addTerm operators).map Prod.fst).Nodup := by
  induction found generalizing operators with
  | nil => exact distinct
  | cons term rest ih => exact ih (nodup_addTerm distinct term)

/-- The operators of a text, collected by key. -/
theorem operators_parse (raw : String) :
    (parse raw).operators =
      (usedKeys (entries raw)).map fun key => (key, valuesOf (entries raw) key) := by
  have distinct : ((parse raw).operators.map Prod.fst).Nodup :=
    @nodup_foldl_addTerm [] (by simp) (terms raw)
  have keys : (parse raw).operators.map Prod.fst = usedKeys (entries raw) :=
    map_fst_foldl_addTerm (terms raw)
  rw [Keyed.eq_map_lookup distinct [], keys]
  refine List.map_congr_left fun key _ => ?_
  rw [← get_parse]
  rfl

/-! ## Items -/

/-- What stands between the blanks of a search text: an operator with a list as its value,
an operator with a value in quotes, or a word that is no operator. -/
inductive Item where
  | listed (key value : List Char) (isKey : IsKey key) (given : value ≠ [])
      (solid : ∀ character ∈ value, Text.isBlank character = false)
      (unquoted : ∀ first ∈ value.head?, first ≠ '"' ∧ first ≠ '\'')
  | quoted (key : List Char) (mark : Char) (body : List Char) (isKey : IsKey key)
      (isMark : mark = '"' ∨ mark = '\'') (within : mark ∉ body)
  | word (text : List Char) (given : text ≠ [])
      (solid : ∀ character ∈ text, Text.isBlank character = false)
      (plain : ∀ key first rest, IsKey key → text ≠ key ++ ':' :: first :: rest)

namespace Item

/-- An item as it is written. -/
def text : Item → List Char
  | listed key value _ _ _ _ => key ++ ':' :: value
  | quoted key mark body _ _ _ => key ++ ':' :: mark :: (body ++ [mark])
  | word text _ _ _ => text

/-- What an operator says: its key in lower case, and the parts of its list between commas
or its body in quotes, of which none is empty. -/
def entry? : Item → Option (String × List String)
  | listed key value _ _ _ _ =>
      some (Text.lower (String.ofList key),
        ((value.splitOn ',').filter (!·.isEmpty)).map String.ofList)
  | quoted key _ body _ _ _ =>
      some (Text.lower (String.ofList key), if body = [] then [] else [String.ofList body])
  | word _ _ _ _ => none

/-- The word that is no operator. -/
def word? : Item → Option (List Char)
  | listed _ _ _ _ _ _ => none
  | quoted _ _ _ _ _ _ => none
  | word text _ _ _ => some text

/-- The operator as it is read. -/
def term? : Item → Option Term
  | listed key value _ _ _ _ => some ⟨key, .bare value⟩
  | quoted key _ body _ _ _ => some ⟨key, .quoted body⟩
  | word _ _ _ _ => none

/-- The pieces into which an item is cut. -/
def pieces : Item → List Piece
  | listed key value _ _ _ _ => [.term ⟨key, .bare value⟩]
  | quoted key _ body _ _ _ => [.term ⟨key, .quoted body⟩]
  | word text _ _ _ => text.map .character

end Item

/-- A text of items, with a gap between any two of them and possibly behind the last. -/
inductive Written : List Item → List Char → Prop where
  | nothing : Written [] []
  | last (item : Item) : Written [item] item.text
  | more (item : Item) (gap : Gap) {items : List Item} {rest : List Char}
      (later : Written items rest) :
      Written (item :: items) (item.text ++ (gap.characters ++ rest))

/-! ## Reading an item -/

theorem bareValue?_of_solid (given : characters ≠ [])
    (solid : ∀ character ∈ characters, Text.isBlank character = false) (blank : StartsBlank after) :
    bareValue? (characters ++ after) = some (.bare characters, after) := by
  have whole : ∀ character ∈ characters, (!Text.isBlank character) = true := by simpa using solid
  rw [bareValue?_append blank, bareValue?, List.takeWhile_eq_self_iff.2 whole,
    List.dropWhile_eq_nil_iff.2 whole]
  cases characters with
  | nil => exact absurd rfl given
  | cons first rest => rfl

theorem value?_of_unquoted (given : characters ≠ [])
    (solid : ∀ character ∈ characters, Text.isBlank character = false)
    (unquoted : ∀ first ∈ characters.head?, first ≠ '"' ∧ first ≠ '\'')
    (blank : StartsBlank after) :
    value? (characters ++ after) = some (.bare characters, after) := by
  have bare := bareValue?_of_solid given solid blank
  obtain ⟨first, rest, rfl⟩ := List.exists_cons_of_ne_nil given
  rw [List.cons_append, value?, if_neg (by simpa using unquoted), ← List.cons_append, bare]

theorem closeQuote?_of_not_mem {mark : Char} (within : mark ∉ characters) :
    closeQuote? mark (characters ++ mark :: after) = some (characters, after) := by
  induction characters with
  | nil => simp [closeQuote?]
  | cons first rest ih =>
      obtain ⟨differs, others⟩ := not_or.1 (mt List.mem_cons.2 within)
      rw [List.cons_append, closeQuote?, if_neg (by simpa using Ne.symm differs), ih others]
      rfl

theorem value?_of_quoted {mark : Char} (isMark : mark = '"' ∨ mark = '\'')
    (within : mark ∉ characters) :
    value? (mark :: (characters ++ mark :: after)) = some (.quoted characters, after) := by
  rw [value?, if_pos (by simpa using isMark), closeQuote?_of_not_mem within]

theorem pieces_of_solid (solid : ∀ character ∈ characters, Text.isBlank character = false) :
    pieces false (characters ++ after) = characters.map .character ++ pieces false after := by
  induction characters with
  | nil => rfl
  | cons first rest ih =>
      rw [List.cons_append, pieces_character (by simp), solid first (by simp),
        ih fun other member => solid other (by simp [member])]
      rfl

/-- A run without blanks is no operator unless a key, a colon and something more make it up. -/
theorem term?_eq_none_iff (solid : ∀ character ∈ characters, Text.isBlank character = false) :
    term? characters = none ↔
      ∀ key first rest, IsKey key → characters ≠ key ++ ':' :: first :: rest := by
  constructor
  · rintro none key first rest isKey rfl
    rw [term?_key isKey, Option.map_eq_none_iff, value?_eq_none, startsBlank_cons,
      solid first (by simp)] at none
    cases none
  · intro plain
    by_contra given
    obtain ⟨⟨term, after⟩, found⟩ := Option.ne_none_iff_exists'.1 given
    obtain ⟨written, isKey, same, valued⟩ := exists_of_term? found
    cases written with
    | nil => cases valued
    | cons first rest => exact plain term.key first rest isKey same

theorem pieces_of_term?_append {term : Term} (found : term? characters = some (term, after)) :
    pieces true characters = .term term :: pieces false after := by
  cases characters with
  | nil => cases found
  | cons first rest => exact pieces_term found

/-- An item in front of a blank is cut off. -/
theorem Item.pieces_append (item : Item) (blank : StartsBlank after) :
    Search.pieces true (item.text ++ after) = item.pieces ++ Search.pieces false after := by
  cases item with
  | listed key value isKey given solid unquoted =>
      refine pieces_of_term?_append ?_
      rw [Item.text, List.append_assoc, List.cons_append, term?_key isKey,
        value?_of_unquoted given solid unquoted blank]
      rfl
  | quoted key mark body isKey isMark within =>
      refine pieces_of_term?_append ?_
      have valued : value? (mark :: (body ++ mark :: after)) = some (.quoted body, after) :=
        value?_of_quoted isMark within
      simp only [Item.text, List.append_assoc, List.cons_append, List.nil_append, term?_key isKey,
        valued]
      rfl
  | word text given solid plain =>
      have none := term?_append_eq_none ((term?_eq_none_iff solid).2 plain) blank
      rw [Item.text]
      obtain ⟨first, rest, rfl⟩ := List.exists_cons_of_ne_nil given
      have others := fun other member => solid other (List.mem_cons_of_mem first member)
      rw [List.cons_append] at none ⊢
      rw [pieces_character fun _ => none, solid first (by simp),
        pieces_of_solid others, Item.pieces, List.map_cons, List.cons_append]

theorem Item.termsOf_pieces (item : Item) : termsOf item.pieces = item.term?.toList := by
  cases item with
  | listed | quoted => rfl
  | word text => exact termsOf_map_character text

theorem Item.words_leftOver (item : Item) :
    Text.words (leftOver item.pieces) = item.word?.toList := by
  cases item with
  | listed | quoted => rfl
  | word text given solid plain =>
      rw [Item.pieces, leftOver_map_character]
      exact Text.words_of_solid given solid

/-- What an operator says is what it gives as it is read. -/
theorem Item.entry?_eq (item : Item) :
    item.entry? = item.term?.map Term.entry := by
  cases item with
  | listed key value =>
      simp [Item.entry?, Item.term?, Term.entry, Term.name, Text.lower, TermValue.values,
        Text.splitAt_eq_splitOn]
  | quoted key mark body =>
      simp [Item.entry?, Item.term?, Term.entry, Term.name, Text.lower, TermValue.values]
  | word => rfl

/-! ## Reading a text -/

theorem Gap.startsBlank (gap : Gap) (rest : List Char) : StartsBlank (gap.characters ++ rest) := by
  obtain ⟨_ | ⟨first, others⟩, given, blank⟩ := gap
  · exact absurd rfl given
  · simpa using blank first (by simp)

/-- The operators and the words of a text are those of its items. -/
theorem Written.read {items : List Item} (written : Written items characters) :
    termsOf (pieces true characters) = items.filterMap Item.term? ∧
      Text.words (leftOver (pieces true characters)) = items.filterMap Item.word? := by
  induction written with
  | nothing => simp [termsOf, leftOver, Text.words, Text.fieldsAux]
  | last item =>
      have cut := item.pieces_append startsBlank_nil
      rw [List.append_nil, pieces_nil, List.append_nil] at cut
      rw [cut, item.termsOf_pieces, item.words_leftOver]
      cases item <;> exact ⟨rfl, rfl⟩
  | @more item gap items rest later ih =>
      have cut := item.pieces_append (gap.startsBlank rest)
      rw [pieces_gap] at cut
      rw [cut]
      -- the gap is left over and ends the last word, and it hides no operator
      constructor
      · simp only [termsOf_append, termsOf_map_character, item.termsOf_pieces, ih.1]
        cases item <;> rfl
      · simp only [leftOver_append, leftOver_map_character]
        rw [Text.words_append_gap gap.given gap.blank, item.words_leftOver, ih.2]
        cases item <;> rfl

/-- Parsing a written text gives back its operators, collected by key, and its words, with a
space between any two of them. -/
theorem parse_written {items : List Item} {blanks written : List Char}
    (blank : ∀ character ∈ blanks, Text.isBlank character = true)
    (spelled : Written items written) :
    let entries := items.filterMap Item.entry?
    parse (String.ofList (blanks ++ written)) =
      { operators := (usedKeys entries).map fun key => (key, valuesOf entries key)
        freeText := String.ofList ([' '].intercalate (items.filterMap Item.word?)) } := by
  intro entries
  have whole : parse (String.ofList (blanks ++ written)) =
      ⟨(parse (String.ofList (blanks ++ written))).operators,
        (parse (String.ofList (blanks ++ written))).freeText⟩ := rfl
  have operators : Search.entries (String.ofList (blanks ++ written)) = entries := by
    rw [Search.entries, terms, String.toList_ofList, pieces_blanks blank, termsOf_append,
      termsOf_map_character, List.nil_append, spelled.read.1, List.map_filterMap]
    exact congrArg (items.filterMap ·) (funext fun item => item.entry?_eq.symm)
  have words : freeWords (String.ofList (blanks ++ written)) = items.filterMap Item.word? := by
    rw [freeWords, String.toList_ofList, pieces_blanks blank, leftOver_append,
      leftOver_map_character, Text.words_blanks_append blank, spelled.read.2]
  rw [whole, operators_parse, freeText_parse, operators, words]

theorem solid_of_all {run : List Char} (every : run.all (!Text.isBlank ·) = true) :
    ∀ character ∈ run, Text.isBlank character = false := by
  simpa using every

/-- A key of word characters. -/
theorem isKey_of_all {key : List Char} (given : key ≠ []) (word : key.all Text.isWord = true) :
    IsKey key :=
  ⟨key, .inl rfl, given, List.all_eq_true.1 word⟩

/-- A key written in two cases, words with quotes and colons in them, and a body in quotes that
looks like an operator. -/
def flakyItems : List Item :=
  [.listed "Repo".toList "acme,,corp".toList (isKey_of_all (by decide) (by decide)) (by decide)
      (solid_of_all (by decide)) (by simp),
    .word "\"flaky".toList (by decide) (solid_of_all (by decide))
      ((term?_eq_none_iff (solid_of_all (by decide))).1 (by decide +kernel)),
    .quoted "repo".toList '\'' "is:open".toList (isKey_of_all (by decide) (by decide))
      (by decide) (by decide),
    .quoted "is".toList '"' [] (isKey_of_all (by decide) (by decide)) (by decide) (by decide),
    .word "to:".toList (by decide) (solid_of_all (by decide))
      ((term?_eq_none_iff (solid_of_all (by decide))).1 (by decide +kernel))]

/-- A line break. -/
def Gap.line : Gap := ⟨['\n'], by decide, List.all_eq_true.1 (by decide)⟩

theorem parse_flakyItems :
    let blanks := "\t ".toList
    let written := "Repo:acme,,corp \"flaky\nrepo:'is:open' is:\"\" to: ".toList
    (∀ character ∈ blanks, Text.isBlank character = true) ∧ Written flakyItems written ∧
      parse (String.ofList (blanks ++ written)) =
        { operators := [("repo", ["acme", "corp", "is:open"])], freeText := "\"flaky to:" } := by
  intro blanks written
  have blank : ∀ character ∈ blanks, Text.isBlank character = true :=
    List.all_eq_true.1 (by decide)
  have spelled : Written flakyItems written :=
    .more _ Gap.space <| .more _ Gap.line <| .more _ Gap.space <| .more _ Gap.space <|
      .more _ Gap.space .nothing
  exact ⟨blank, spelled, (parse_written blank spelled).trans (by decide +kernel)⟩

end Triage.Search
