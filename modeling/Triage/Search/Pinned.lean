import Triage.Schema.Field

/-!
# Pinned searches

A search text that is saved under a name.
-/

namespace Triage

open Schema

/-- A saved search; the service may give the number of its matches. -/
structure PinnedSearch where
  id : Option Int := none
  name : String
  query : String := ""
  count : Option Int := none
  deriving DecidableEq, Repr

namespace PinnedSearch

/-- A saved search's fields; only the name is required. -/
def check (fields : Json.Fields) : Checked PinnedSearch :=
  PinnedSearch.mk
    <$> optional fields "id" integer
    <*> required fields "name" text
    <*> withDefault fields "query" "" text
    <*> optional fields "count" integer

/-- The saved search that a value describes. -/
def ofJson (value : Json) : Except Failure PinnedSearch :=
  (object check value).toExcept "PinnedSearch"

/-- The description of a saved search. -/
def toJson (search : PinnedSearch) : Json :=
  .obj [("id", .ofInt? search.id), ("name", .str search.name), ("query", .str search.query),
    ("count", .ofInt? search.count)]

/-- The schema reads the description of a saved search as that search. -/
theorem ofJson_toJson (search : PinnedSearch) : ofJson search.toJson = .ok search := by
  obtain ⟨id, name, query, count⟩ := search
  cases id <;> cases count <;> rfl

end PinnedSearch

end Triage
