import Triage.Error
import Triage.Json.Display
import Triage.Report.Overview

/-!
# Reports of given values

Types and counts as values of any kind.  A value that cannot be shown where it is
needed is refused.
-/

namespace Triage.Report

/-- The label of the type that a value gives.  One that counts as nothing gives
none. -/
def typeLabelGiven (value : Json) : Except Error String :=
  if !value.truthy then .ok (typeLabel none)
  else
    match value with
    | .str kind => .ok (typeLabel (some kind))
    | .arr items => .error (.misuse (.notText (Json.arr items).kindName "upper"))
    | .obj _ => .error (.misuse (.unhashable "slice"))
    | value => .error (.misuse (.noKeys value.kindName))

/-- The badge of a given count.  A truth value counts as a number. -/
def badgeGiven : Json → Except Error String
  | .null => .ok (badge none)
  | .bool value => .ok (badge (some (if value then 1 else 0)))
  | .int value => .ok (badge (some value))
  | .real value => .ok (Text.padLeft 5 value.text)
  | .str text => .ok (Text.padLeft 5 text)
  | value => .error (.misuse (.noWidth value.kindName))

/-- The line of a pinned search, whose count may be given under its name. -/
def pinnedLineGiven (coloured : Bool) (counts : Json.Fields) (search : PinnedSearch) :
    Except Error String := do
  let badge ← badgeGiven ((counts.get? search.name).getD (.ofInt? search.count))
  return pinnedLine coloured badge search

/-- The pinned searches with the counts that a value gives. -/
def pinnedSearchesGiven (coloured : Bool) (counts : Json) (searches : List PinnedSearch) :
    Except Error String := do
  match searches, counts.truthy, counts with
  | [], _, _ => return pinnedList coloured []
  | _, false, _ => return pinnedSearches coloured [] searches
  | _, true, .obj fields =>
      return pinnedList coloured (← searches.mapM (pinnedLineGiven coloured fields))
  | _, true, value => throw (.misuse (.noFields value.kindName))

/-- A text gives the type that it names. -/
@[simp] theorem typeLabelGiven_str (kind : String) :
    typeLabelGiven (.str kind) = .ok (typeLabel (some kind)) := by
  by_cases empty : kind.isEmpty <;> simp [typeLabelGiven, Json.truthy, typeLabel, empty]

/-- A number or the lack of one gives the badge that it has. -/
@[simp] theorem badgeGiven_ofInt? (count : Option Int) :
    badgeGiven (.ofInt? count) = .ok (badge count) := by
  cases count <;> rfl

/-- Counts in a description, by the names of the searches. -/
def describeCounts (counts : List (String × Option Int)) : Json.Fields :=
  counts.map fun entry => (entry.1, .ofInt? entry.2)

/-- A described count is found where the count is. -/
theorem get?_describeCounts (counts : List (String × Option Int)) (name : String) :
    (describeCounts counts).get? name = (counts.lookup name).map Json.ofInt? := by
  induction counts with
  | nil => rfl
  | cons entry rest ih =>
      obtain ⟨key, count⟩ := entry
      simp only [describeCounts, Json.Fields.get?, List.map_cons, List.lookup_cons] at ih ⊢
      cases name == key <;> simp [ih]

/-- The line of a pinned search is the same whether the counts are given or known. -/
theorem pinnedLineGiven_describeCounts (coloured : Bool) (counts : List (String × Option Int))
    (search : PinnedSearch) :
    pinnedLineGiven coloured (describeCounts counts) search =
      .ok (pinnedLine coloured (badge (pinnedCount counts search)) search) := by
  have reads : ((describeCounts counts).get? search.name).getD (.ofInt? search.count) =
      .ofInt? (pinnedCount counts search) := by
    rw [get?_describeCounts]
    cases found : counts.lookup search.name <;> simp [pinnedCount, found]
  simp [pinnedLineGiven, reads, bind, Except.bind, pure, Except.pure]

/-- Counts in a description are shown as the counts themselves. -/
theorem pinnedSearchesGiven_describeCounts (coloured : Bool)
    (counts : List (String × Option Int)) (searches : List PinnedSearch) :
    pinnedSearchesGiven coloured (.obj (describeCounts counts)) searches =
      .ok (pinnedSearches coloured counts searches) := by
  have lines : ∀ shown : List PinnedSearch,
      shown.mapM (pinnedLineGiven coloured (describeCounts counts)) =
        .ok (shown.map fun search =>
          pinnedLine coloured (badge (pinnedCount counts search)) search) := by
    intro shown
    induction shown with
    | nil => rfl
    | cons search rest ih =>
        simp [List.mapM_cons, pinnedLineGiven_describeCounts, ih, bind, Except.bind, pure,
          Except.pure]
  cases searches with
  | nil => rfl
  | cons search rest =>
      cases counts with
      | nil => rfl
      | cons entry more =>
          simp only [pinnedSearchesGiven, describeCounts, List.map_cons, Json.truthy,
            List.isEmpty_cons, Bool.not_false] at lines ⊢
          simp [lines, pinnedSearches, bind, Except.bind, pure, Except.pure]

end Triage.Report
