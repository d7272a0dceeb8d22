import Mathlib.Data.List.Basic
import Triage.Proofs.Search.Join
import Triage.Proofs.Text.Lower
import Triage.Search.Criteria

/-!
# Text that is found as it stands

Free text is looked for in lower case.  Where it stands in the search text of a notification
letter by letter, it is found, unless a capital sigma at its edge has another form in lower
case there than in the free text alone.
-/

namespace Triage.Search

variable {record : Notification} {raw : String}

/-- Without operators a query has the criterion of its free text at most. -/
theorem criteria_of_operators_nil {query : Query} (plain : query.operators = []) :
    criteria query = freeTextCriteria query := by
  obtain ⟨operators, freeText⟩ := query
  subst plain
  have asked : fieldCriteria ⟨[], freeText⟩ "" true = [] := rfl
  have types : typeCriteria ⟨[], freeText⟩ = [] := rfl
  have refused : fieldCriteria ⟨[], freeText⟩ "-" false = [] := rfl
  have wishes : wishCriteria (flagWishes ⟨[], freeText⟩) = [] := rfl
  simp only [criteria, asked, types, refused, wishes, List.append_nil]

/-- A text without operators is found exactly in search texts that hold its free text, both in
lower case. -/
theorem matchesText_of_operators_nil (plain : (parse raw).operators = []) :
    matchesText record raw = true ↔
      (Text.lower (parse raw).freeText).toList <:+: (Text.lower record.searchText).toList := by
  rw [matchesText, criteria_of_operators_nil plain, freeTextCriteria]
  by_cases none : (parse raw).freeText = ""
  · simp [none, Text.lower, Text.lowerList, Text.lowerAfter]
  · simp [none, meetsAll, Text.contains, Text.containsList_iff]

/-- The free text of a text without operators is found wherever it stands in the search text of
a notification and its capital sigmas have the same forms there as in it alone; in particular
everywhere, if it has no capital sigma. -/
theorem literal_text_found (plain : (parse raw).operators = []) :
    (∀ before after,
        record.searchText.toList = before ++ ((parse raw).freeText.toList ++ after) →
        Text.KeepsSigmas before (parse raw).freeText.toList after →
          matchesText record raw = true) ∧
      (Text.capitalSigma ∉ (parse raw).freeText.toList →
        (parse raw).freeText.toList <:+: record.searchText.toList →
          matchesText record raw = true) := by
  have kept (before after : List Char)
      (stands : record.searchText.toList = before ++ ((parse raw).freeText.toList ++ after))
      (keeps : Text.KeepsSigmas before (parse raw).freeText.toList after) :
      matchesText record raw = true := by
    rw [matchesText_of_operators_nil plain, Text.lower, Text.lower, String.toList_ofList,
      String.toList_ofList, stands]
    exact keeps.lowerList_infix
  refine ⟨kept, fun without found => ?_⟩
  obtain ⟨before, after, same⟩ := found
  exact kept before after (by rw [← same, List.append_assoc])
    (Text.keepsSigmas_of_not_mem without before after)

/-! ## A word and the beginning of another one -/

/-- Greek capitals are letters with case. -/
theorem leadsCased_greek {letter : Char} (member : letter ∈ ['Φ', 'Ω', 'Ο', 'Ρ'])
    (rest : List Char) : Text.leadsCased (letter :: rest) = true := by
  have letters : ['Φ', 'Ω', 'Ο', 'Ρ'].all
      (fun letter => Text.isCased letter && !Text.isCaseIgnorable letter) = true := by
    -- evaluation of the tables as lists takes far fewer steps
    simp only [Text.isCased, Text.isCaseIgnorable, Text.inRanges_eq_any_toList]
    decide +kernel
  obtain ⟨cased, solid⟩ : Text.isCased letter = true ∧ Text.isCaseIgnorable letter = false := by
    simpa using List.all_eq_true.1 letters letter member
  exact Text.leadsCased_cons cased solid rest

/-- A light in capitals, whose final sigma stays one in front of a space. -/
def lightNews : Notification :=
  { id := 1, subject := { title := some "ΤΟ ΦΩΣ ΜΑΣ" } }

theorem light_found :
    (parse "ΦΩΣ").operators = [] ∧ lightNews.searchText.toList =
        "ΤΟ ".toList ++ ((parse "ΦΩΣ").freeText.toList ++ " ΜΑΣ".toList) ∧
      Text.KeepsSigmas "ΤΟ ".toList (parse "ΦΩΣ").freeText.toList " ΜΑΣ".toList ∧
      matchesText lightNews "ΦΩΣ" = true := by
  have plain : (parse "ΦΩΣ").operators = [] := by decide +kernel
  have stands : lightNews.searchText.toList =
      "ΤΟ ".toList ++ ((parse "ΦΩΣ").freeText.toList ++ " ΜΑΣ".toList) := by decide +kernel
  have keeps : Text.KeepsSigmas "ΤΟ ".toList (parse "ΦΩΣ").freeText.toList " ΜΑΣ".toList := by
    have free : (parse "ΦΩΣ").freeText.toList = ['Φ', 'Ω'] ++ Text.capitalSigma :: [] := by
      decide +kernel
    rw [free]
    intro front back same
    obtain ⟨rfl, -, rfl⟩ :=
      (List.append_cons_inj_of_notMem (by decide) List.not_mem_nil).1 same
    have gap : Text.leadsCased [' ', 'Μ', 'Α', 'Σ'] = false := by decide +kernel
    change Text.lowerSigma ['Ω', 'Φ', ' ', 'Ο', 'Τ'] [' ', 'Μ', 'Α', 'Σ'] =
      Text.lowerSigma ['Ω', 'Φ'] []
    rw [Text.lowerSigma, Text.lowerSigma, gap, leadsCased_greek (by decide),
      leadsCased_greek (by decide)]
    rfl
  exact ⟨plain, stands, keeps, (literal_text_found plain).1 _ _ stands keeps⟩

/-- In front of another letter the sigma of the same word is not a final one. -/
theorem lowerList_light :
    Text.lowerList ['Φ', 'Ω', 'Σ'] = ['φ', 'ω', 'ς'] ∧
      Text.lowerList ['Φ', 'Ω', 'Σ', 'Φ', 'Ο', 'Ρ', 'Ο', 'Σ'] =
        ['φ', 'ω', 'σ', 'φ', 'ο', 'ρ', 'ο', 'ς'] := by
  have sigma : Text.capitalSigma = 'Σ' := by decide
  have nothing : Text.leadsCased [] = false := rfl
  have letters : ∀ letter ∈ [('Φ', 'φ'), ('Ω', 'ω'), ('Ο', 'ο'), ('Ρ', 'ρ')],
      Text.lowerChar letter.1 = [letter.2] := by
    decide +kernel
  simp only [List.forall_mem_cons] at letters
  simp [Text.lowerList, Text.lowerAfter, Text.lowerSigma, leadsCased_greek, nothing, sigma,
    letters]

/-- A title that starts with the text, and with it a longer word, is not found. -/
theorem literal_text_missed :
    let record : Notification := { id := 1, subject := { title := some "ΦΩΣΦΟΡΟΣ" } }
    terms "ΦΩΣ" = [] ∧ (parse "ΦΩΣ").freeText = "ΦΩΣ" ∧
      (parse "ΦΩΣ").freeText.toList <:+: record.searchText.toList ∧
      matchesText record "ΦΩΣ" = false := by
  intro record
  have plain : (parse "ΦΩΣ").operators = [] := by decide +kernel
  have free : (parse "ΦΩΣ").freeText = "ΦΩΣ" := by decide +kernel
  have searched : record.searchText = "ΦΩΣΦΟΡΟΣ" := by decide +kernel
  refine ⟨by decide +kernel, free, by decide +kernel, ?_⟩
  rw [← Bool.not_eq_true, matchesText_of_operators_nil plain, free, searched, Text.lower,
    Text.lower]
  simp only [String.toList_ofList]
  change ¬ Text.lowerList ['Φ', 'Ω', 'Σ'] <:+:
    Text.lowerList ['Φ', 'Ω', 'Σ', 'Φ', 'Ο', 'Ρ', 'Ο', 'Σ']
  rw [lowerList_light.1, lowerList_light.2]
  decide +kernel

end Triage.Search
