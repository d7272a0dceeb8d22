import Triage.Proofs.Search.Opposites
import Triage.Proofs.Search.Written

/-!
# Searching for the value of a field

A search for a text in quotes under the key of a field keeps what the facets of this field keep
whose texts are the same in the form in which the field is compared.  The facets of truth values
are searches as well.
-/

namespace Triage

/-! ## Facets of fields -/

namespace Facet

/-- The text that a field has in a notification. -/
def textIn (record : Notification) (kind : FacetKind) : Option String :=
  match valueIn record kind with
  | some (.text text) => some text
  | _ => none

theorem textIn_eq_some {record : Notification} {kind : FacetKind} {text : String} :
    textIn record kind = some text ↔ valueIn record kind = some (.text text) := by
  rw [textIn]
  split
  · next other same => simp [same]
  · next apart =>
      constructor
      · nofun
      · exact fun same => absurd same (apart text)

/-- The texts that a field has in notifications. -/
def textsIn (records : List Notification) (kind : FacetKind) : List String :=
  records.filterMap fun record => textIn record kind

end Facet

namespace Search

variable {name : FieldName} {record : Notification} {records : List Notification}
variable {raw text value : String}

namespace FieldName

/-- The facets that narrow a list by a compared field. -/
def kind : FieldName → FacetKind
  | .repo => .repo
  | .owner => .owner
  | .type => .subjectType
  | .reason => .reason
  | .state => .subjectState

/-- The key under which a compared field is looked for. -/
def key : FieldName → String
  | .repo => "repo"
  | .owner => "owner"
  | .type => "type"
  | .reason => "reason"
  | .state => "state"

/-- The form in which the texts of a field are compared: without regard to case, and for
reasons also without regard to whether spaces or underscores stand between words. -/
def folded : FieldName → String → String
  | .reason => normalizeReason
  | _ => Text.lower

theorem key_mem_keys (name : FieldName) : name.key ∈ name.keys true := by
  cases name <;> decide

theorem read_compared (name : FieldName) (record : Notification) :
    name.compared.read record = (Facet.textIn record name.kind).map name.folded := by
  have texts (given : Option String) :
      (match given.map FacetValue.text with
        | some (.text text) => some text
        | _ => none) = given := by
    cases given <;> rfl
  cases name <;>
    simp only [kind, folded, Facet.textIn, Facet.valueIn, texts] <;> rfl

/-- A value of a query is compared in the same form, unless it is another name of a type. -/
theorem normalize_compared
    (canonical : name = .type → Text.lower (classifyType value) = Text.lower value) :
    name.compared.normalize value = name.folded value := by
  cases name with
  | type => exact canonical rfl
  | _ => rfl

end FieldName

/-! ## One operator alone -/

theorem matchesText_empty (record : Notification) : matchesText record "" = true := by
  rw [matchesText, parse_empty, criteria_empty, meetsAll_nil]

/-- A text that is one operator gives its values to its key, and asks for nothing else. -/
theorem extends_empty_of_term? {term : Term} (single : term? raw.toList = some (term, [])) :
    (parse raw).Extends (parse "") term.name term.value.values := by
  rw [parse_empty]
  constructor
  · exact freeText_parse_eq_empty.2 (freeWords_of_term? single)
  · intro other
    rw [get_parse_of_term? single]
    rfl

/-- A text between quotes. -/
def quoted (value : String) : String :=
  "\"" ++ value ++ "\""

theorem value?_quoted (unquoted : '"' ∉ value.toList) :
    value? (quoted value).toList = some (.quoted value.toList, []) := by
  have written : (quoted value).toList = '"' :: (value.toList ++ ['"']) := by
    rw [quoted, String.toList_append, String.toList_append]
    rfl
  rw [written]
  exact value?_of_quoted (.inl rfl) unquoted

theorem values_quoted (given : value ≠ "") : (TermValue.quoted value.toList).values = [value] := by
  have filled : value.toList.isEmpty = false := by simpa using given
  rw [TermValue.values, filled, if_neg Bool.false_ne_true, String.ofList_toList]

/-- A search for a text in quotes keeps the notifications whose field has the same text in the
form in which it is compared. -/
theorem matchesText_quoted (given : value ≠ "") (unquoted : '"' ∉ value.toList)
    (canonical : name = .type → Text.lower (classifyType value) = Text.lower value) :
    matchesText record (name.key ++ ":" ++ quoted value) = true ↔
      ∃ text, Facet.textIn record name.kind = some text ∧ name.folded text = name.folded value := by
  obtain ⟨term, single, named, valued⟩ :=
    FieldName.exists_term name.key_mem_keys (value?_quoted unquoted)
  have extended := extends_empty_of_term? single
  rw [named, valued, values_quoted given] at extended
  have unused : ¬ Uses "" (name.keys true) := by
    rintro ⟨key, _, used⟩
    rw [parse_empty] at used
    exact used rfl
  rw [extended.matchesText_field name.key_mem_keys (List.cons_ne_nil _ _) unused,
    matchesText_empty, Bool.true_and, ComparedField.holds, name.read_compared, List.map_singleton,
    FieldName.normalize_compared canonical]
  cases Facet.textIn record name.kind <;> simp

/-- A search for a shortcut keeps the notifications whose property has the wished value. -/
theorem matchesText_shortcut_alone {property : Property} {word : String × Bool}
    (known : word ∈ property.shortcuts) (record : Notification) :
    matchesText record ("is:" ++ word.1) = (property.holds record == word.2) := by
  obtain ⟨term, single, named, valued⟩ := Property.exists_term_of_shortcut known
  have extended := extends_empty_of_term? single
  rw [named, valued] at extended
  have unasked : property.Unasked (parse "") := by
    rw [parse_empty]
    exact ⟨rfl, by simp [shortcuts, Query.get]⟩
  rw [extended.matchesText_shortcut unasked known, matchesText_empty, Bool.true_and]

/-! ## Facets alone -/

theorem mem_select_text {kind : FacetKind} :
    record ∈ select (some ⟨kind, .text text⟩) {} records ↔
      record ∈ records ∧ Facet.textIn record kind = some text := by
  rw [select_facet, List.mem_filter, Facet.keeps_iff, Facet.textIn_eq_some]

/-- The facet of a property that a shortcut asks for keeps what the shortcut finds. -/
theorem select_flag_eq_search {kind : FacetKind} {property : Property} {word : String × Bool}
    (known : word ∈ property.shortcuts)
    (read : ∀ record, Facet.valueIn record kind = some (.flag (property.holds record))) :
    select (some ⟨kind, .flag word.2⟩) {} records = search ("is:" ++ word.1) records := by
  rw [select_facet, search_eq_filter_matchesText]
  refine List.filter_congr fun record _ => ?_
  rw [matchesText_shortcut_alone known, Facet.keeps, read, Bool.eq_iff_iff]
  simp

/-! ## Searches and facets -/

/-- A search for a text in quotes under the key of a field keeps, in their order, the notifications
that a facet of this field keeps whose text occurs and is the same in the form in which the field
is compared; what the facet of the text itself keeps is among them.  The text is not empty and has
no quote in it, and it is no other name of a type if it is looked for as a type.  The facets of
truth values keep what shortcuts find. -/
theorem search_quoted_eq_selections (records : List Notification) :
    (∀ (name : FieldName) (value : String), value ≠ "" → '"' ∉ value.toList →
      (name = .type → Text.lower (classifyType value) = Text.lower value) →
      search (name.key ++ ":" ++ quoted value) records =
        records.filter (fun record =>
          ∃ text ∈ Facet.textsIn records name.kind, name.folded text = name.folded value ∧
            record ∈ select (some ⟨name.kind, .text text⟩) {} records) ∧
      (select (some ⟨name.kind, .text value⟩) {} records).Sublist
        (search (name.key ++ ":" ++ quoted value) records)) ∧
    select (some ⟨.unread, .flag true⟩) {} records = search "is:unread" records ∧
    select (some ⟨.unread, .flag false⟩) {} records = search "is:read" records ∧
    select (some ⟨.bot, .flag true⟩) {} records = search "is:bot" records ∧
    select (some ⟨.bot, .flag false⟩) {} records = search "is:human" records := by
  have unread (record : Notification) :
      Facet.valueIn record .unread = some (.flag (Property.unread.holds record)) := rfl
  have bot (record : Notification) :
      Facet.valueIn record .bot = some (.flag (Property.bot.holds record)) := rfl
  refine ⟨fun name value given unquoted canonical => ⟨?_, ?_⟩,
    @select_flag_eq_search _ _ _ ("unread", true) (by decide) unread,
    @select_flag_eq_search _ _ _ ("read", false) (by decide) unread,
    @select_flag_eq_search _ _ _ ("bot", true) (by decide) bot,
    @select_flag_eq_search _ _ _ ("human", false) (by decide) bot⟩
  · rw [search_eq_filter_matchesText]
    refine List.filter_congr fun record member => ?_
    rw [Bool.eq_iff_iff, matchesText_quoted given unquoted canonical, decide_eq_true_iff]
    constructor
    · rintro ⟨text, found, same⟩
      exact ⟨text, List.mem_filterMap.2 ⟨record, member, found⟩, same,
        mem_select_text.2 ⟨member, found⟩⟩
    · rintro ⟨text, _, same, kept⟩
      exact ⟨text, (mem_select_text.1 kept).2, same⟩
  · rw [select_facet, search_eq_filter_matchesText]
    refine List.monotone_filter_right records fun record kept => ?_
    rw [Facet.keeps_iff] at kept
    exact (matchesText_quoted given unquoted canonical).2
      ⟨value, Facet.textIn_eq_some.2 kept, rfl⟩

/-- Two pull requests, of which the one that was read spells its type in another way, and an
issue. -/
def requestsAndIssue : List Notification :=
  [{ id := 1, subject := { kind := some "PullRequest" } },
    { id := 2, flags := { unread := false }, subject := { kind := some "pullRequest" } },
    { id := 3, subject := { kind := some "Issue" } }]

/-- Pull requests are found under another spelling of their type, which is no facet of any. -/
theorem search_quoted_pullrequest :
    let found := search (FieldName.type.key ++ ":" ++ quoted "pullrequest") requestsAndIssue
    "pullrequest" ≠ "" ∧ '"' ∉ "pullrequest".toList ∧
      Text.lower (classifyType "pullrequest") = Text.lower "pullrequest" ∧
      found.map Notification.id = [1, 2] ∧
      Facet.textsIn requestsAndIssue .subjectType = ["PullRequest", "pullRequest", "Issue"] ∧
      found = requestsAndIssue.filter (fun record =>
        ∃ text ∈ Facet.textsIn requestsAndIssue .subjectType,
          Text.lower text = Text.lower "pullrequest" ∧
            record ∈ select (some ⟨.subjectType, .text text⟩) {} requestsAndIssue) ∧
      (select (some ⟨.subjectType, .text "pullrequest"⟩) {} requestsAndIssue).Sublist found ∧
      select (some ⟨.unread, .flag true⟩) {} requestsAndIssue =
        search "is:unread" requestsAndIssue := by
  intro found
  have given : "pullrequest" ≠ "" := by decide
  have unquoted : '"' ∉ "pullrequest".toList := by decide
  have canonical : Text.lower (classifyType "pullrequest") = Text.lower "pullrequest" := by
    decide +kernel
  have identified : found.map Notification.id = [1, 2] := by decide +kernel
  obtain ⟨fields, unread, _⟩ := search_quoted_eq_selections requestsAndIssue
  obtain ⟨union, sub⟩ := fields .type "pullrequest" given unquoted fun _ => canonical
  exact ⟨given, unquoted, canonical, identified, rfl, union, sub, unread⟩

end Search

end Triage
