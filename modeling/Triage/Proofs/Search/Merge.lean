import Triage.Proofs.Search.Written

/-!
# Queries of joined texts

A text of two texts with a gap between them says what both say: each key has the values
that the first text gives it and then those of the second, and the keys keep the places
at which they are first given a value.
-/

namespace Triage.Search

/-! ## Two queries in one -/

/-- Operators with those of a second list behind them.  A key of both lists keeps its place
in the first. -/
def mergeOperators (first second : List (String × List String)) :
    List (String × List String) :=
  (first.map fun entry => (entry.1, entry.2 ++ (second.lookup entry.1).getD [])) ++
    second.filter fun entry => !(first.map Prod.fst).contains entry.1

/-- The operators of two queries and the free texts that are there, with a space between
them. -/
def Query.merge (first second : Query) : Query where
  operators := mergeOperators first.operators second.operators
  freeText := " ".intercalate ([first.freeText, second.freeText].filter (!·.isEmpty))

/-! ## Keys that are given a value -/

variable {first second : List (String × List String)} {key : String}

/-- Entries give no value to a key that they do not use. -/
theorem valuesOf_of_not_mem_usedKeys (unused : key ∉ usedKeys first) : valuesOf first key = [] := by
  rw [valuesOf, List.flatMap_eq_nil_iff]
  rintro ⟨other, values⟩ member
  split
  · next same =>
      subst same
      by_contra given
      exact unused (mem_usedKeys.2 ⟨values, member, given⟩)
  · rfl

/-- Entries behind others use the keys of these and new ones in their own order. -/
theorem usedKeys_append (first second : List (String × List String)) :
    usedKeys (first ++ second) =
      usedKeys first ++ (usedKeys second).filter (!(usedKeys first).contains ·) := by
  -- from the end of the second list, as a key belongs where it is first used
  induction second using List.reverseRecOn with
  | nil => simp [usedKeys]
  | append_singleton second entry ih =>
      rw [← List.append_assoc, usedKeys_append_singleton, usedKeys_append_singleton, ih]
      by_cases none : entry.2 = []
      · simp [none]
      · by_cases before : entry.1 ∈ usedKeys first <;>
          by_cases known : entry.1 ∈ usedKeys second <;> simp [none, before, known]

theorem lookup_operators_parse (raw key : String) :
    ((parse raw).operators.lookup key).getD [] = valuesOf (entries raw) key :=
  get_parse raw key

theorem map_fst_operators_parse (raw : String) :
    (parse raw).operators.map Prod.fst = usedKeys (entries raw) := by
  simp [operators_parse, Function.comp_def]

/-! ## Free text -/

/-- Words of two texts with a space between any two are those of the first and those of the
second with a space between these. -/
theorem intercalate_words_append {words others : List (List Char)} (given : words ≠ [])
    (added : others ≠ []) :
    [' '].intercalate (words ++ others) =
      [' '].intercalate words ++ ' ' :: [' '].intercalate others := by
  induction words with
  | nil => exact absurd rfl given
  | cons word rest ih =>
      cases rest with
      | nil => simp [List.intercalate_cons_of_ne_nil added]
      | cons next rest =>
          rw [List.cons_append, List.cons_append, List.intercalate_cons_cons,
            List.intercalate_cons_cons, ← List.cons_append, ih (List.cons_ne_nil next rest)]
          simp

theorem freeText_parse_join_eq {raw : String} (closed : Closed raw) (gap : Gap)
    (other : String) :
    (parse (raw ++ gap.text ++ other)).freeText =
      " ".intercalate ([(parse raw).freeText, (parse other).freeText].filter (!·.isEmpty)) := by
  by_cases none : (parse raw).freeText = ""
  · rw [(freeText_parse_join closed gap).2 none, none]
    by_cases nothing : (parse other).freeText = "" <;> simp [nothing, String.intercalate_singleton]
  · by_cases nothing : (parse other).freeText = ""
    · rw [(freeText_parse_join closed gap).1 nothing, nothing]
      simp [none, String.intercalate_singleton]
    · have given := mt freeText_parse_eq_empty.2 none
      have added := mt freeText_parse_eq_empty.2 nothing
      have both : [(parse raw).freeText, (parse other).freeText].filter (!·.isEmpty) =
          [(parse raw).freeText, (parse other).freeText] := by simp [none, nothing]
      rw [both, ← String.toList_inj, String.toList_intercalate]
      simp [freeText_parse, freeWords_join closed, intercalate_words_append given added]

/-! ## Joined texts -/

/-- Behind a text that leaves no quote open and a gap, a text is parsed as it is alone. -/
theorem parse_join_eq_merge {raw : String} (closed : Closed raw) (gap : Gap) (other : String) :
    parse (raw ++ gap.text ++ other) = (parse raw).merge (parse other) := by
  have operators : (parse (raw ++ gap.text ++ other)).operators =
      mergeOperators (parse raw).operators (parse other).operators := by
    have entries_join : entries (raw ++ gap.text ++ other) = entries raw ++ entries other := by
      rw [entries, terms_join closed, List.map_append]
      rfl
    rw [operators_parse, entries_join, usedKeys_append, List.map_append, mergeOperators,
      map_fst_operators_parse]
    congr 1
    · rw [operators_parse raw, List.map_map]
      refine List.map_congr_left fun key _ => ?_
      simp [lookup_operators_parse]
    · rw [operators_parse other, List.filter_map]
      refine List.map_congr_left fun key member => ?_
      have new : key ∉ usedKeys (entries raw) := by simpa using (List.mem_filter.1 member).2
      rw [valuesOf_append, valuesOf_of_not_mem_usedKeys new, List.nil_append]
  rw [Query.merge, ← operators, ← freeText_parse_join_eq closed]

/-- The first text ends in a key that waits for its value, and the second asks for a key of
the first in another case, behind several blanks. -/
theorem parse_flaky_join :
    let raw := "repo:\"acme corp\"/api flaky Is:unread label:"
    let gap : Gap := ⟨[' ', '\n'], by decide, List.all_eq_true.1 (by decide)⟩
    Closed raw ∧
      parse (raw ++ gap.text ++ "state:open,closed is:pr test") =
        (parse raw).merge (parse "state:open,closed is:pr test") ∧
      (parse raw).merge (parse "state:open,closed is:pr test") =
        { operators := [("repo", ["acme corp"]), ("is", ["unread", "pr"]),
            ("state", ["open", "closed"])]
          freeText := "/api flaky label: test" } := by
  intro raw gap
  have closed : Closed raw := by decide +kernel
  exact ⟨closed, parse_join_eq_merge closed gap _, by decide +kernel⟩

end Triage.Search
