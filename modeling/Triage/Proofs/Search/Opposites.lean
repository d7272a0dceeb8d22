import Mathlib.Data.List.Sort
import Triage.Proofs.Search.Conjunction

/-!
# Opposite operators

Behind a search text that does not ask about it, an operator and its opposite divide what
the text alone finds: each notification is found with one of them and not with the other.
-/

namespace Triage.Search

/-! ## Positions -/

/-- The positions of the notifications that a search text keeps. -/
def positions (raw : String) (records : List Notification) : List (Fin records.length) :=
  (List.finRange records.length).filter fun position => matchesText (records.get position) raw

theorem mem_positions {raw : String} {records : List Notification}
    {position : Fin records.length} :
    position ∈ positions raw records ↔ matchesText (records.get position) raw = true := by
  simp [positions]

/-- The positions are in the order of the list. -/
theorem pairwise_positions (raw : String) (records : List Notification) :
    (positions raw records).Pairwise (· < ·) := by
  have ordered := List.sortedLT_iff_pairwise.1 (List.sortedLT_finRange records.length)
  exact ordered.sublist List.filter_sublist

/-- A search finds what stands at its positions. -/
theorem search_eq_map_positions (raw : String) (records : List Notification) :
    search raw records = (positions raw records).map records.get := by
  rw [search_eq_filter_matchesText, positions]
  conv => lhs; rw [← List.map_get_finRange records, List.filter_map]
  rfl

/-! ## One changed aspect -/

variable {query later : Query}

/-- Where a text asks nothing in an aspect and another asks the same but for one condition in
this aspect, what matches it are the matches of the first that meet the condition. -/
theorem matchesText_of_changed {raw later : String} {aspect : Aspect} {condition : Criterion}
    (others : ∀ other ≠ aspect, other.criteria (parse later) = other.criteria (parse raw))
    (silent : aspect.criteria (parse raw) = [])
    (asked : aspect.criteria (parse later) = [condition]) (record : Notification) :
    matchesText record later = (matchesText record raw && condition record) := by
  have single : meetsAll [condition] record = condition record := by simp [meetsAll]
  rw [matchesText, matchesText, meetsAll_criteria, meetsAll_criteria, Bool.eq_iff_iff]
  simp only [List.all_eq_true, Bool.and_eq_true]
  constructor
  · intro every
    -- all aspects of the first text but the changed one are asked by the second too
    refine ⟨fun other member => ?_, ?_⟩
    · by_cases same : other = aspect
      · rw [same, silent, meetsAll_nil]
      · rw [← others other same]
        exact every other member
    · rw [← single, ← asked]
      exact every aspect aspect.mem_all
  · rintro ⟨every, met⟩ other member
    by_cases same : other = aspect
    · rw [same, asked, single]
      exact met
    · rw [others other same]
      exact every other member

/-- A query gives more values to one key than another, and is the same otherwise. -/
structure Query.Extends (later query : Query) (key : String) (values : List String) : Prop where
  text : later.freeText = query.freeText
  get : ∀ other, later.get other = query.get other ++ if key = other then values else []

theorem Query.Extends.get_of_ne {key other : String} {values : List String}
    (extended : later.Extends query key values) (differs : key ≠ other) :
    later.get other = query.get other := by
  rw [extended.get, if_neg differs, List.append_nil]

/-- An aspect that does not look at the key is not changed. -/
theorem Query.Extends.criteria {key : String} {values : List String} {aspect : Aspect}
    (extended : later.Extends query key values) (apart : key ∉ aspect.keys) :
    aspect.criteria later = aspect.criteria query := by
  refine Aspect.Agree.criteria ⟨fun _ => extended.text, fun other member => ?_⟩
  exact extended.get_of_ne fun same => apart (same ▸ member)

/-- An operator at the end of a search text adds its values. -/
theorem extends_of_term? {raw token : String} {term : Term} (closed : Closed raw)
    (single : term? token.toList = some (term, [])) :
    (parse (raw ++ " " ++ token)).Extends (parse raw) term.name term.value.values := by
  rw [← Gap.text_space]
  constructor
  · exact (freeText_parse_join closed Gap.space).1
      (freeText_parse_eq_empty.2 (freeWords_of_term? single))
  · intro other
    rw [get_parse_join closed, get_parse_of_term? single]

/-! ## Wishes -/

/-- A query says nothing about a property, neither under its key nor under `is`. -/
structure Property.Unasked (property : Property) (query : Query) : Prop where
  direct : query.get property.key = []
  short : ∀ word ∈ property.shortcuts, word.1 ∉ Search.shortcuts query

theorem Property.Unasked.criteria {property : Property} (unasked : property.Unasked query) :
    (Aspect.wish property).criteria query = [] := by
  have none : property.shortcuts.find?
      (fun word => (Search.shortcuts query).contains word.1) = Option.none := by
    rw [List.find?_eq_none]
    simpa using unasked.short
  rw [Aspect.criteria, wish_eq, none, directWish, unasked.direct]
  rfl

theorem Property.key_ne_is (property : Property) : property.key ≠ "is" := by
  cases property <;> decide

/-- The key of a property that nothing was said about decides. -/
theorem Property.Unasked.criteria_of_key {property : Property} {value : String}
    (unasked : property.Unasked query) (extended : later.Extends query property.key [value]) :
    (Aspect.wish property).criteria later =
      [fun record => property.holds record == (Text.lower value == "true")] := by
  have same := shortcuts_congr (extended.get_of_ne property.key_ne_is)
  have none : property.shortcuts.find?
      (fun word => (Search.shortcuts later).contains word.1) = Option.none := by
    rw [List.find?_eq_none, same]
    simpa using unasked.short
  have direct : later.get property.key = [value] := by
    rw [extended.get, unasked.direct, if_pos rfl, List.nil_append]
  rw [Aspect.criteria, wish_eq, none, directWish, direct]
  rfl

/-- The values of `is:` that ask for properties are in lower case, differ from each other and
from those that ask for types. -/
theorem Property.shortcuts_distinct {property : Property} {word : String × Bool}
    (known : word ∈ property.shortcuts) :
    Text.lower word.1 = word.1 ∧ word.1 ∉ ["pr", "pullrequest", "issue"] ∧
      (property.shortcuts.find? fun other => other.1 == word.1) = some word ∧
      ∀ other ≠ property, ∀ apart ∈ other.shortcuts, apart.1 ≠ word.1 := by
  have every : ∀ property ∈ Property.all, ∀ word ∈ property.shortcuts,
      Text.lower word.1 = word.1 ∧ word.1 ∉ ["pr", "pullrequest", "issue"] ∧
        (property.shortcuts.find? fun other => other.1 == word.1) = some word ∧
        ∀ other ∈ Property.all, other ≠ property → ∀ apart ∈ other.shortcuts, apart.1 ≠ word.1 := by
    decide +kernel
  obtain ⟨lower, types, found, others⟩ := every property property.mem_all word known
  exact ⟨lower, types, found, fun other => others other other.mem_all⟩

theorem shortcuts_of_extends {value : String} (extended : later.Extends query "is" [value]) :
    shortcuts later = shortcuts query ++ [Text.lower value] := by
  rw [shortcuts, extended.get, if_pos rfl, List.map_append]
  rfl

/-- A value of `is:` that asks for a property that nothing was said about decides. -/
theorem Property.Unasked.criteria_of_shortcut {property : Property} {word : String × Bool}
    (unasked : property.Unasked query) (known : word ∈ property.shortcuts)
    (extended : later.Extends query "is" [word.1]) :
    (Aspect.wish property).criteria later = [fun record => property.holds record == word.2] := by
  obtain ⟨lower, _, found, _⟩ := Property.shortcuts_distinct known
  have asked : property.shortcuts.find?
      (fun other => (Search.shortcuts later).contains other.1) = some word := by
    rw [← found]
    refine List.find?_congr fun other member => ?_
    have apart := unasked.short other member
    rw [shortcuts_of_extends extended, lower, Bool.eq_iff_iff]
    simp [apart]
  rw [Aspect.criteria, wish_eq, asked]
  rfl

/-- A value of `is:` that asks for a property changes no other aspect. -/
theorem criteria_of_shortcut {property : Property} {word : String × Bool}
    (known : word ∈ property.shortcuts) (extended : later.Extends query "is" [word.1])
    {other : Aspect} (differs : other ≠ .wish property) :
    other.criteria later = other.criteria query := by
  obtain ⟨lower, types, _, others⟩ := Property.shortcuts_distinct known
  have short {value : String} (apart : value ≠ word.1) :
      (shortcuts later).contains value = (shortcuts query).contains value := by
    rw [shortcuts_of_extends extended, lower]
    simp [apart]
  cases other with
  | freeText => exact extended.criteria (by simp [Aspect.keys])
  | field wanted name => exact extended.criteria (by cases wanted <;> cases name <;> decide)
  | types =>
      simp only [List.mem_cons, List.not_mem_nil, or_false, not_or] at types
      obtain ⟨pr, pullrequest, issue⟩ := types
      simp only [Aspect.criteria, typeCriteria, short (Ne.symm pr), short (Ne.symm pullrequest),
        short (Ne.symm issue)]
  | wish property =>
      have wished : property.wish later = property.wish query :=
        Property.wish_congr
          (fun apart member => short (others property (by simpa using differs) apart member))
          (extended.get_of_ne property.key_ne_is.symm)
      rw [Aspect.criteria, Aspect.criteria, wished]

/-! ## Fields -/

theorem firstGiven_of_only {key value : String} {keys rest : List String} (known : key ∈ keys)
    (only : ∀ other ∈ keys, query.get other = if key = other then value :: rest else []) :
    firstGiven query keys = value :: rest := by
  induction keys with
  | nil => simp at known
  | cons other keys ih =>
      rw [firstGiven, only other (by simp)]
      by_cases same : key = other
      · rw [if_pos same]
      · rw [if_neg same]
        refine ih ?_ fun later member => only later (by simp [member])
        simpa [same] using known

/-- The key of a field that nothing was said about decides. -/
theorem criteria_of_fieldKey {name : FieldName} {wanted : Bool} {key : String}
    {values : List String} (known : key ∈ name.keys wanted)
    (unused : ∀ other ∈ name.keys wanted, query.get other = [])
    (extended : later.Extends query key values) (given : values ≠ []) :
    (Aspect.field wanted name).criteria later =
      [fun record => name.compared.holds values record == wanted] := by
  obtain ⟨value, rest, rfl⟩ := List.exists_cons_of_ne_nil given
  have first : firstGiven later (name.keys wanted) = value :: rest := by
    refine firstGiven_of_only known fun other member => ?_
    rw [extended.get, unused other member, List.nil_append]
  rw [Aspect.criteria, first]

/-- The keys of fields can be written, and are in lower case. -/
theorem FieldName.isKey {name : FieldName} {wanted : Bool} {key : String}
    (known : key ∈ name.keys wanted) : IsKey key.toList ∧ Text.lower key = key := by
  have every : ∀ name ∈ all, ∀ wanted, ∀ key ∈ name.keys wanted,
      (takeSign key.toList).2 ≠ [] ∧ (takeSign key.toList).2.all Text.isWord = true ∧
        Text.lower key = key := by decide +kernel
  obtain ⟨given, word, lower⟩ := every name name.mem_all wanted key known
  exact ⟨isKey_of_takeSign given (List.all_eq_true.1 word), lower⟩

/-- The key of a field belongs to this field in one sense. -/
theorem FieldName.not_mem_keys {name : FieldName} {wanted : Bool} {key : String}
    (known : key ∈ name.keys wanted) {other : Aspect} (differs : other ≠ .field wanted name) :
    key ∉ other.keys := by
  have every : ∀ name ∈ all, ∀ wanted, ∀ key ∈ name.keys wanted, ∀ other ∈ Aspect.all,
      other ≠ .field wanted name → key ∉ other.keys := by decide +kernel
  exact every name name.mem_all wanted key known other other.mem_all differs

/-- The key of a property belongs to this property. -/
theorem Property.not_mem_keys {property : Property} {other : Aspect}
    (differs : other ≠ .wish property) : property.key ∉ other.keys := by
  have every : ∀ property ∈ all, ∀ other ∈ Aspect.all, other ≠ .wish property →
      property.key ∉ other.keys := by decide +kernel
  exact every property property.mem_all other other.mem_all differs

/-! ## What an operator at the end adds -/

variable {raw extension : String}

/-- A value of `is:` that is added asks for its property, if nothing was said about it. -/
theorem Query.Extends.matchesText_shortcut {property : Property} {word : String × Bool}
    (extended : (parse extension).Extends (parse raw) "is" [word.1])
    (unasked : property.Unasked (parse raw)) (known : word ∈ property.shortcuts)
    (record : Notification) :
    matchesText record extension =
      (matchesText record raw && (property.holds record == word.2)) :=
  matchesText_of_changed (fun _ differs => criteria_of_shortcut known extended differs)
    unasked.criteria (unasked.criteria_of_shortcut known extended) record

/-- An operator that asks for a property gives one value to `is`. -/
theorem Property.exists_term_of_shortcut {property : Property} {word : String × Bool}
    (known : word ∈ property.shortcuts) :
    ∃ term, term? ("is:" ++ word.1).toList = some (term, []) ∧ term.name = "is" ∧
      term.value.values = [word.1] := by
  have every : ∀ property ∈ Property.all, ∀ word ∈ property.shortcuts, ∀ term,
      term = (⟨"is".toList, .bare word.1.toList⟩ : Term) →
      term? ("is:" ++ word.1).toList = some (term, []) ∧ term.name = "is" ∧
        term.value.values = [word.1] := by
    simp only [forall_eq]
    decide +kernel
  exact ⟨_, every property property.mem_all word known _ rfl⟩

/-- A value of `is:` asks for its property, if nothing was said about it. -/
theorem matchesText_shortcut (closed : Closed raw) {property : Property}
    (unasked : property.Unasked (parse raw)) (word : String × Bool)
    (known : word ∈ property.shortcuts) (record : Notification) :
    matchesText record (raw ++ " " ++ ("is:" ++ word.1)) =
      (matchesText record raw && (property.holds record == word.2)) := by
  obtain ⟨term, single, named, valued⟩ := Property.exists_term_of_shortcut known
  have extended := extends_of_term? closed single
  rw [named, valued] at extended
  exact extended.matchesText_shortcut unasked known record

/-- The key of a property asks for a value of it, if nothing was said about it. -/
theorem matchesText_property (closed : Closed raw) {property : Property}
    (unasked : property.Unasked (parse raw)) (word : String × Bool)
    (known : word ∈ [("true", true), ("false", false)]) (record : Notification) :
    matchesText record (raw ++ " " ++ (property.key ++ (":" ++ word.1))) =
      (matchesText record raw && (property.holds record == word.2)) := by
  have every : ∀ property ∈ Property.all, ∀ word ∈ [("true", true), ("false", false)], ∀ term,
      term = (⟨property.key.toList, .bare word.1.toList⟩ : Term) →
      term? (property.key ++ (":" ++ word.1)).toList = some (term, []) ∧
        term.name = property.key ∧ term.value.values = [word.1] ∧
        (Text.lower word.1 == "true") = word.2 := by
    simp only [forall_eq]
    decide +kernel
  obtain ⟨single, named, valued, lower⟩ := every property property.mem_all word known _ rfl
  have extended := extends_of_term? closed single
  rw [named, valued] at extended
  have asked := unasked.criteria_of_key extended
  rw [lower] at asked
  exact matchesText_of_changed
    (fun other differs => extended.criteria (Property.not_mem_keys differs))
    unasked.criteria asked record

/-- Values of a field that are added ask for the field to hold, or not to hold, if nothing was
said about it in this sense. -/
theorem Query.Extends.matchesText_field {name : FieldName} {wanted : Bool} {key : String}
    {values : List String} (extended : (parse extension).Extends (parse raw) key values)
    (known : key ∈ name.keys wanted) (given : values ≠ []) (unused : ¬ Uses raw (name.keys wanted))
    (record : Notification) :
    matchesText record extension =
      (matchesText record raw && (name.compared.holds values record == wanted)) := by
  have quiet : (Aspect.field wanted name).Quiet raw :=
    ⟨fun same => absurd same (by simp), fun _ => get_of_not_uses unused⟩
  have silent : (Aspect.field wanted name).criteria (parse raw) = [] := by
    rw [quiet.criteria, Aspect.criteria_empty]
  have asked := criteria_of_fieldKey known (fun other => get_of_not_uses unused) extended given
  exact matchesText_of_changed
    (fun other differs => extended.criteria (FieldName.not_mem_keys known differs))
    silent asked record

/-- An operator is written as its key, a colon and its value. -/
theorem toList_operator (key written : String) :
    (key ++ ":" ++ written).toList = key.toList ++ ':' :: written.toList := by simp

/-- The key of a field makes an operator of a value behind it. -/
theorem FieldName.exists_term {name : FieldName} {wanted : Bool} {key written : String}
    {value : TermValue} (known : key ∈ name.keys wanted)
    (valued : value? written.toList = some (value, [])) :
    ∃ term, term? (key ++ ":" ++ written).toList = some (term, []) ∧ term.name = key ∧
      term.value = value := by
  obtain ⟨isKey, lower⟩ := FieldName.isKey known
  have single : term? (key ++ ":" ++ written).toList = some (⟨key.toList, value⟩, []) := by
    rw [toList_operator, term?_key isKey, valued]
    rfl
  exact ⟨_, single, lower, rfl⟩

/-- The key of a field asks for the field to hold, or not to hold, if nothing was said about
it in this sense. -/
theorem matchesText_field (closed : Closed raw) {name : FieldName} {wanted : Bool}
    {key written : String} {value : TermValue} (known : key ∈ name.keys wanted)
    (valued : value? written.toList = some (value, [])) (given : value.values ≠ [])
    (unused : ¬ Uses raw (name.keys wanted)) (record : Notification) :
    matchesText record (raw ++ " " ++ (key ++ ":" ++ written)) =
      (matchesText record raw && (name.compared.holds value.values record == wanted)) := by
  obtain ⟨term, single, named, rfl⟩ := FieldName.exists_term known valued
  have extended := extends_of_term? closed single
  rw [named] at extended
  exact extended.matchesText_field known given unused record

/-! ## Opposites -/

/-- Two operators ask for opposite things of which a search text says nothing. -/
inductive Opposed (raw : String) : String → String → Prop where
  | unread (unasked : Property.unread.Unasked (parse raw)) : Opposed raw "is:unread" "is:read"
  | bot (unasked : Property.bot.Unasked (parse raw)) : Opposed raw "is:bot" "is:human"
  | property (property : Property) (unasked : property.Unasked (parse raw)) :
      Opposed raw (property.key ++ ":true") (property.key ++ ":false")
  | field {name : FieldName} {key written : String} {term : Term}
      (known : key ∈ name.compared.keys)
      (single : term? (key ++ ":" ++ written).toList = some (term, []))
      (given : term.value.values ≠ [])
      (unasked : ∀ wanted, ¬ Uses raw (name.keys wanted)) :
      Opposed raw (key ++ ":" ++ written) ("-" ++ key ++ ":" ++ written)

/-- An operator keeps the notifications with some property, and its opposite those without
it. -/
theorem Opposed.exists_condition (closed : Closed raw) {positive negative : String}
    (opposed : Opposed raw positive negative) :
    ∃ condition : Criterion, ∀ record,
      matchesText record (raw ++ " " ++ positive) = (matchesText record raw && condition record) ∧
      matchesText record (raw ++ " " ++ negative) =
        (matchesText record raw && !condition record) := by
  cases opposed with
  | unread unasked =>
      refine ⟨Property.unread.holds, fun record => ?_⟩
      have asked := matchesText_shortcut closed unasked ("unread", true) (by decide) record
      have denied := matchesText_shortcut closed unasked ("read", false) (by decide) record
      exact ⟨by simpa using asked, by simpa using denied⟩
  | bot unasked =>
      refine ⟨Property.bot.holds, fun record => ?_⟩
      have asked := matchesText_shortcut closed unasked ("bot", true) (by decide) record
      have denied := matchesText_shortcut closed unasked ("human", false) (by decide) record
      exact ⟨by simpa using asked, by simpa using denied⟩
  | property property unasked =>
      refine ⟨property.holds, fun record => ?_⟩
      have asked := matchesText_property closed unasked ("true", true) (by decide) record
      have denied := matchesText_property closed unasked ("false", false) (by decide) record
      exact ⟨by simpa using asked, by simpa using denied⟩
  | @field name key written term known single given unasked =>
      have positive : key ∈ name.keys true := by simpa [FieldName.keys, FieldName.sign] using known
      have negative : "-" ++ key ∈ name.keys false := by
        simpa [FieldName.keys, FieldName.sign] using known
      have valued : value? written.toList = some (term.value, []) := by
        rw [toList_operator, term?_key (FieldName.isKey positive).1] at single
        obtain ⟨⟨value, rest⟩, found, same⟩ := Option.map_eq_some_iff.1 single
        cases same
        exact found
      refine ⟨name.compared.holds term.value.values, fun record => ?_⟩
      have asked := matchesText_field closed positive valued given (unasked true) record
      have denied := matchesText_field closed negative valued given (unasked false) record
      exact ⟨by simpa using asked, by simpa using denied⟩

/-- Behind a text that leaves no quote open and says nothing of what they ask, two opposed
operators divide the positions at which the text finds notifications; a search finds what
stands at its positions, in the order of the list. -/
theorem opposed_divide_positions {raw positive negative : String} (closed : Closed raw)
    (opposed : Opposed raw positive negative) (records : List Notification) :
    let asked := positions (raw ++ " " ++ positive) records
    let denied := positions (raw ++ " " ++ negative) records
    (∀ text, search text records = (positions text records).map records.get ∧
      (positions text records).Pairwise (· < ·)) ∧
      asked.Disjoint denied ∧
      ∀ position, position ∈ positions raw records ↔ position ∈ asked ∨ position ∈ denied := by
  intro asked denied
  obtain ⟨condition, parts⟩ := opposed.exists_condition closed
  refine ⟨fun text => ⟨search_eq_map_positions text records, pairwise_positions text records⟩,
    fun position inside outside => ?_, fun position => ?_⟩
  · rw [mem_positions, (parts _).1, Bool.and_eq_true] at inside
    rw [mem_positions, (parts _).2, inside.2, Bool.not_true, Bool.and_false] at outside
    cases outside
  · rw [mem_positions, mem_positions, mem_positions, (parts _).1, (parts _).2]
    cases condition (records.get position) <;> simp

/-- The flaky tests of a repository and those of all others are the flaky tests. -/
theorem opposed_repo_of_flaky :
    let flaky := "flaky archived:false"
    let asked := positions (flaky ++ " " ++ "repo:\"acme/api\"") flakyTests
    let denied := positions (flaky ++ " " ++ "-repo:\"acme/api\"") flakyTests
    Closed flaky ∧ Opposed flaky "repo:\"acme/api\"" "-repo:\"acme/api\"" ∧
      asked.map Fin.val = [0, 2] ∧ denied.map Fin.val = [1] ∧ asked.Disjoint denied ∧
      ∀ position, position ∈ positions flaky flakyTests ↔
        position ∈ asked ∨ position ∈ denied := by
  intro flaky asked denied
  have closed : Closed flaky := by decide +kernel
  have unasked : ∀ wanted, ¬ Uses flaky (FieldName.repo.keys wanted) := by decide +kernel
  have opposed : Opposed flaky "repo:\"acme/api\"" "-repo:\"acme/api\"" :=
    @Opposed.field flaky .repo "repo" "\"acme/api\"" ⟨"repo".toList, .quoted "acme/api".toList⟩
      (by decide) (by decide +kernel) (by decide +kernel) unasked
  have first : asked.map Fin.val = [0, 2] := by decide +kernel
  have second : denied.map Fin.val = [1] := by decide +kernel
  exact ⟨closed, opposed, first, second, (opposed_divide_positions closed opposed flakyTests).2⟩

end Triage.Search
