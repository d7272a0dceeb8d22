import Triage.Proofs.Search.Aspects
import Triage.Proofs.Search.Join

/-!
# Joined searches

Two search texts that ask about different things keep, joined by a space, what one of them
keeps of what the other keeps.  An operator whose key asks about nothing changes nothing.
-/

namespace Triage.Search

/-! ## Searches and criteria -/

/-- A search keeps the notifications that match its text. -/
theorem search_eq_filter_matchesText (raw : String) (records : List Notification) :
    search raw records = records.filter fun record => matchesText record raw := rfl

theorem meetsAll_criteria_and {query first second : Query} {record : Notification}
    (each : ∀ aspect : Aspect, meetsAll (aspect.criteria query) record =
      (meetsAll (aspect.criteria first) record && meetsAll (aspect.criteria second) record)) :
    meetsAll (criteria query) record =
      (meetsAll (criteria first) record && meetsAll (criteria second) record) := by
  rw [meetsAll_criteria, meetsAll_criteria, meetsAll_criteria, Bool.eq_iff_iff]
  simp only [each, List.all_eq_true, Bool.and_eq_true]
  exact forall₂_and

/-! ## Groups of keys -/

/-- The keys that ask about something; those of a group bear on each other. -/
def groupedKeys : List (List String) :=
  [["repo"], ["owner", "org", "user"], ["type"], ["reason"], ["state"],
    ["-repo"], ["-owner", "-org", "-user"], ["-type"], ["-reason"], ["-state"],
    ["is", "unread", "starred", "archived", "muted", "bot"], ["inbox"]]

/-- A search text gives a value to one of the keys. -/
def Uses (raw : String) (keys : List String) : Prop :=
  ∃ key ∈ keys, (parse raw).get key ≠ []

instance (raw : String) (keys : List String) : Decidable (Uses raw keys) :=
  inferInstanceAs (Decidable (∃ key ∈ keys, (parse raw).get key ≠ []))

/-- An aspect looks at the keys of one group only. -/
theorem exists_group (aspect : Aspect) :
    ∃ keys ∈ groupedKeys, ∀ key ∈ aspect.keys, key ∈ keys := by
  have every : ∀ aspect ∈ Aspect.all, ∃ keys ∈ groupedKeys, ∀ key ∈ aspect.keys, key ∈ keys := by
    decide +kernel
  exact every aspect aspect.mem_all

theorem get_of_not_uses {raw key : String} {keys : List String} (unused : ¬ Uses raw keys)
    (member : key ∈ keys) : (parse raw).get key = [] := by
  by_contra given
  exact unused ⟨key, member, given⟩

/-! ## Two searches -/

variable {first second : String}

/-- A search text asks nothing in an aspect. -/
abbrev Aspect.Quiet (aspect : Aspect) (raw : String) : Prop :=
  aspect.Agree (parse raw) {}

/-- Where one of two texts asks nothing, both together ask what the other one does. -/
theorem Aspect.Quiet.agree_join {aspect : Aspect} (closed : Closed first) :
    (aspect.Quiet second →
      aspect.Agree (parse (first ++ Gap.space.text ++ second)) (parse first)) ∧
    (aspect.Quiet first →
      aspect.Agree (parse (first ++ Gap.space.text ++ second)) (parse second)) := by
  have text := @freeText_parse_join first closed Gap.space second
  constructor
  · intro quiet
    refine ⟨fun same => text.1 (quiet.text same), fun key member => ?_⟩
    have none : (parse second).get key = [] := quiet.values key member
    rw [get_parse_join closed, none, List.append_nil]
  · intro quiet
    refine ⟨fun same => text.2 (quiet.text same), fun key member => ?_⟩
    have none : (parse first).get key = [] := quiet.values key member
    rw [get_parse_join closed, none, List.nil_append]

/-- Two texts that share no group of keys and of which one has no free text do not both ask
something in an aspect. -/
theorem quiet_of_apart (apart : ∀ keys ∈ groupedKeys, ¬ (Uses first keys ∧ Uses second keys))
    (text : (parse first).freeText = "" ∨ (parse second).freeText = "") (aspect : Aspect) :
    aspect.Quiet second ∨ aspect.Quiet first := by
  by_cases isText : aspect = .freeText
  · subst isText
    have values (raw : String) : ∀ key ∈ Aspect.freeText.keys, (parse raw).get key = [] := by
      simp [Aspect.keys]
    exact text.symm.imp (fun none => ⟨fun _ => none, values second⟩)
      fun none => ⟨fun _ => none, values first⟩
  · obtain ⟨keys, known, within⟩ := exists_group aspect
    have quiet {raw : String} (unused : ¬ Uses raw keys) : aspect.Quiet raw :=
      ⟨fun same => absurd same isText, fun key member => get_of_not_uses unused (within key member)⟩
    by_cases used : Uses second keys
    · exact .inr (quiet fun other => apart keys known ⟨other, used⟩)
    · exact .inl (quiet used)

/-- Joined search texts match what both of them match. -/
theorem matchesText_join (closed : Closed first)
    (apart : ∀ keys ∈ groupedKeys, ¬ (Uses first keys ∧ Uses second keys))
    (text : (parse first).freeText = "" ∨ (parse second).freeText = "")
    (record : Notification) :
    matchesText record (first ++ " " ++ second) =
      (matchesText record first && matchesText record second) := by
  rw [← Gap.text_space]
  refine meetsAll_criteria_and fun aspect => ?_
  rcases quiet_of_apart apart text aspect with quiet | quiet
  · rw [((Aspect.Quiet.agree_join closed).1 quiet).criteria, quiet.criteria,
      Aspect.criteria_empty, meetsAll_nil, Bool.and_true]
  · rw [((Aspect.Quiet.agree_join closed).2 quiet).criteria, quiet.criteria,
      Aspect.criteria_empty, meetsAll_nil, Bool.true_and]

/-- An operator whose key asks about nothing changes no match. -/
theorem matchesText_idle {token : String} {term : Term} (closed : Closed first)
    (single : term? token.toList = some (term, []))
    (idle : ∀ keys ∈ groupedKeys, term.name ∉ keys) (record : Notification) :
    matchesText record (first ++ " " ++ token) = matchesText record first := by
  rw [← Gap.text_space, matchesText, matchesText, meetsAll_criteria, meetsAll_criteria]
  congr 1
  funext aspect
  obtain ⟨keys, known, within⟩ := exists_group aspect
  have same : aspect.Agree (parse (first ++ Gap.space.text ++ token)) (parse first) := by
    constructor
    · intro _
      exact (freeText_parse_join closed Gap.space).1
        (freeText_parse_eq_empty.2 (freeWords_of_term? single))
    · intro key member
      have differs : term.name ≠ key := fun equal => idle keys known (equal ▸ within key member)
      rw [get_parse_join closed, get_parse_of_term? single, if_neg differs, List.append_nil]
  rw [same.criteria]

/-- Searches for two texts that ask about different things, of which at most one has free
text and the first leaves no quote open, are made one after the other, in either order, by
joining the texts with a space.  An operator whose key asks about nothing, put behind such a
first text, changes no search. -/
theorem search_join_eq_search_search {first : String} (closed : Closed first) :
    (∀ second : String, (∀ keys ∈ groupedKeys, ¬ (Uses first keys ∧ Uses second keys)) →
      ((parse first).freeText = "" ∨ (parse second).freeText = "") →
      ∀ records, search (first ++ " " ++ second) records = search second (search first records) ∧
        search (first ++ " " ++ second) records = search first (search second records)) ∧
    ∀ (token : String) (term : Term), term? token.toList = some (term, []) →
      (∀ keys ∈ groupedKeys, term.name ∉ keys) →
      ∀ records, search (first ++ " " ++ token) records = search first records := by
  constructor
  · intro second apart text records
    have both := matchesText_join closed apart text
    constructor
    · simp only [search_eq_filter_matchesText, List.filter_filter, both]
      exact List.filter_congr fun record _ => Bool.and_comm _ _
    · simp only [search_eq_filter_matchesText, List.filter_filter, both]
  · intro token term single idle records
    simp only [search_eq_filter_matchesText, matchesText_idle closed single idle]

/-- A test that fails now and then, and the same in a repository of another owner. -/
def flakyTests : List Notification :=
  [{ id := 1, subject := { title := some "Flaky test" }, repo := { name := some "acme/api" } },
    { id := 2, subject := { title := some "Flaky test" }, repo := { name := some "corp/api" } },
    { id := 3, flags := { unread := false }, subject := { title := some "Flaky test" },
      repo := { name := some "acme/api" } }]

/-- Which flaky tests of a repository are unread is found in one search or in two. -/
theorem search_flaky_and_unread :
    let flaky := "flaky repo:\"acme/api\""
    let unread := "is:unread -state:closed,merged"
    Closed flaky ∧ (∀ keys ∈ groupedKeys, ¬ (Uses flaky keys ∧ Uses unread keys)) ∧
      (parse unread).freeText = "" ∧
      term? "-is:read".toList = some (⟨"-is".toList, .bare "read".toList⟩, []) ∧
      (∀ keys ∈ groupedKeys, "-is" ∉ keys) ∧
      (search (flaky ++ " " ++ unread) flakyTests).map Notification.id = [1] ∧
      search (flaky ++ " " ++ unread) flakyTests = search unread (search flaky flakyTests) ∧
      search (flaky ++ " " ++ unread) flakyTests = search flaky (search unread flakyTests) ∧
      search (flaky ++ " " ++ "-is:read") flakyTests = search flaky flakyTests := by
  intro flaky unread
  have closed : Closed flaky := by decide +kernel
  have apart : ∀ keys ∈ groupedKeys, ¬ (Uses flaky keys ∧ Uses unread keys) := by decide +kernel
  have wordless : (parse unread).freeText = "" := by decide +kernel
  have single : term? "-is:read".toList =
      some (⟨"-is".toList, .bare "read".toList⟩, []) := by decide +kernel
  have idle : ∀ keys ∈ groupedKeys, "-is" ∉ keys := by decide
  have found : (search (flaky ++ " " ++ unread) flakyTests).map Notification.id = [1] := by
    decide +kernel
  obtain ⟨joined, appended⟩ := search_join_eq_search_search closed
  obtain ⟨after, before⟩ := joined unread apart (.inr wordless) flakyTests
  exact ⟨closed, apart, wordless, single, idle, found, after, before,
    appended "-is:read" _ single (by decide +kernel) flakyTests⟩

end Triage.Search
