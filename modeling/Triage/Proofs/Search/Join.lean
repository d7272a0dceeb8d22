import Triage.Keyed
import Triage.Proofs.Search.Terms

/-!
# Joined search texts

The values of a key are those that the operators of a text give it, in their order, and
the free text is made of the words outside of operators.  Two texts with a gap between
them have the operators and the words of both, unless the first leaves a quote open.
-/

namespace Triage

namespace Text

theorem ne_nil_of_mem_fieldsAux {test : Char → Bool} {characters current word : List Char}
    (member : word ∈ fieldsAux test characters current) : word ≠ [] := by
  fun_induction fieldsAux test characters current with
  | case1 => simp at member
  | case2 current filled => simpa [List.mem_singleton.1 member] using filled
  | case3 current first rest separates empty ih => exact ih member
  | case4 current first rest separates filled ih =>
      rcases List.mem_cons.1 member with rfl | later
      · simpa using filled
      · exact ih later
  | case5 current first rest solid ih => exact ih member

/-- No word is empty. -/
theorem ne_nil_of_mem_words {characters word : List Char} (member : word ∈ words characters) :
    word ≠ [] :=
  ne_nil_of_mem_fieldsAux member

end Text

namespace Search

/-! ## What a text holds -/

/-- The operators of a search text. -/
def terms (raw : String) : List Term :=
  termsOf (pieces true raw.toList)

/-- The words of a search text outside of operators. -/
def freeWords (raw : String) : List (List Char) :=
  Text.words (leftOver (pieces true raw.toList))

/-- No value of a search text starts with a quote that is not closed. -/
def Closed (raw : String) : Prop :=
  ∀ term ∈ terms raw, term.value.isOpen = false

instance (raw : String) : Decidable (Closed raw) :=
  inferInstanceAs (Decidable (∀ term ∈ terms raw, term.value.isOpen = false))

/-- What an operator says: its key in lower case and the values that it gives to it. -/
def Term.entry (term : Term) : String × List String :=
  (term.name, term.value.values)

/-- What the operators of a search text say. -/
def entries (raw : String) : List (String × List String) :=
  (terms raw).map Term.entry

/-- The values that entries give to a key. -/
def valuesOf (entries : List (String × List String)) (key : String) : List String :=
  entries.flatMap fun entry => if entry.1 = key then entry.2 else []

@[simp] theorem valuesOf_nil (key : String) : valuesOf [] key = [] := rfl

@[simp] theorem valuesOf_append (first second : List (String × List String)) (key : String) :
    valuesOf (first ++ second) key = valuesOf first key ++ valuesOf second key :=
  List.flatMap_append

theorem freeText_parse (raw : String) :
    (parse raw).freeText = String.ofList ([' '].intercalate (freeWords raw)) := by
  rw [← Text.joinWith_eq_intercalate]
  rfl

/-- There is no free text exactly if every word belongs to an operator. -/
theorem freeText_parse_eq_empty {raw : String} :
    (parse raw).freeText = "" ↔ freeWords raw = [] := by
  rw [freeText_parse, String.ofList_eq_empty_iff]
  cases found : freeWords raw with
  | nil => simp [List.intercalate]
  | cons word rest =>
      have filled : word ≠ [] := Text.ne_nil_of_mem_words (found ▸ List.mem_cons_self)
      cases rest <;> simp [List.intercalate, filled]

/-! ## Values of a key -/

/-- Adding values sets the key to its old values and the new ones. -/
theorem addValues_eq_put (operators : List (String × List String)) (key : String)
    (values : List String) :
    addValues operators key values =
      Keyed.put operators key ((operators.lookup key).getD [] ++ values) := by
  induction operators with
  | nil => simp [addValues, Keyed.put]
  | cons entry rest ih =>
      rw [addValues, Keyed.put, List.lookup_cons]
      split
      · next known => simp [beq_iff_eq.1 known]
      · next differs =>
          have apart : (key == entry.1) = false :=
            beq_false_of_ne fun same => differs (by simp [same])
          rw [ih, apart]

theorem lookup_addValues (operators : List (String × List String)) (key other : String)
    (values : List String) :
    ((addValues operators key values).lookup other).getD [] =
      (operators.lookup other).getD [] ++ if key = other then values else [] := by
  rw [addValues_eq_put, Keyed.lookup_put]
  by_cases same : key = other
  · simp [same]
  · have apart : (other == key) = false := beq_false_of_ne (Ne.symm same)
    simp [apart, same]

theorem lookup_addTerm (operators : List (String × List String)) (key : String) (term : Term) :
    ((addTerm operators term).lookup key).getD [] =
      (operators.lookup key).getD [] ++ if term.name = key then term.value.values else [] := by
  unfold addTerm
  split
  · next none => simp [none]
  · exact lookup_addValues operators term.name key _

theorem lookup_foldl_addTerm (operators : List (String × List String)) (key : String)
    (found : List Term) :
    ((found.foldl addTerm operators).lookup key).getD [] =
      (operators.lookup key).getD [] ++ valuesOf (found.map Term.entry) key := by
  induction found generalizing operators with
  | nil => simp
  | cons term rest ih => simp [ih, lookup_addTerm, valuesOf, Term.entry]

/-- The values of a key are those that the operators give it. -/
theorem get_parse (raw key : String) : (parse raw).get key = valuesOf (entries raw) key :=
  lookup_foldl_addTerm [] key (terms raw)

/-! ## Two texts -/

variable {first : String}

theorem terms_join (closed : Closed first) (gap : Gap) (second : String) :
    terms (first ++ gap.text ++ second) = terms first ++ terms second := by
  simp [terms, pieces_join gap closed]

theorem freeWords_join (closed : Closed first) (gap : Gap) (second : String) :
    freeWords (first ++ gap.text ++ second) =
      freeWords first ++ freeWords second := by
  simp only [freeWords, String.toList_append, Gap.toList_text, List.append_assoc,
    pieces_join gap closed, leftOver_append, leftOver_map_character]
  exact Text.words_append_gap gap.given gap.blank

theorem get_parse_join (closed : Closed first) (gap : Gap) (second key : String) :
    (parse (first ++ gap.text ++ second)).get key =
      (parse first).get key ++ (parse second).get key := by
  simp only [get_parse, entries, terms_join closed, List.map_append, valuesOf_append]

/-- Where only one of two texts has free text, it is that of both together. -/
theorem freeText_parse_join (closed : Closed first) (gap : Gap) {second : String} :
    ((parse second).freeText = "" →
      (parse (first ++ gap.text ++ second)).freeText = (parse first).freeText) ∧
    ((parse first).freeText = "" →
      (parse (first ++ gap.text ++ second)).freeText = (parse second).freeText) := by
  simp only [freeText_parse_eq_empty]
  constructor
  all_goals
    intro none
    rw [freeText_parse, freeText_parse, freeWords_join closed, none]
    simp

/-! ## One operator -/

theorem pieces_of_term? {characters : List Char} {term : Term}
    (found : term? characters = some (term, [])) : pieces true characters = [.term term] := by
  cases characters with
  | nil => cases found
  | cons first rest => rw [pieces_term found, pieces_nil]

/-- A text that is one operator. -/
theorem terms_of_term? {raw : String} {term : Term}
    (found : term? raw.toList = some (term, [])) : terms raw = [term] := by
  rw [terms, pieces_of_term? found]
  rfl

theorem freeWords_of_term? {raw : String} {term : Term}
    (found : term? raw.toList = some (term, [])) : freeWords raw = [] := by
  rw [freeWords, pieces_of_term? found]
  rfl

theorem get_parse_of_term? {raw : String} {term : Term}
    (found : term? raw.toList = some (term, [])) (key : String) :
    (parse raw).get key = if term.name = key then term.value.values else [] := by
  simp [get_parse, entries, terms_of_term? found, valuesOf, Term.entry]

end Search

end Triage
