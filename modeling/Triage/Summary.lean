import Triage.Schema.Field

/-!
# Summaries

What the screen shows about the store besides the list: how many notifications
each tab holds, and how those of the inbox are divided.
-/

namespace Triage

open Schema

/-- How many notifications each tab holds. -/
structure TabCounts where
  inbox : Int := 0
  starred : Int := 0
  archived : Int := 0
  deriving DecidableEq, Repr

namespace TabCounts

/-- The fields of a count of tabs. -/
def check (fields : Json.Fields) : Checked TabCounts :=
  TabCounts.mk
    <$> withDefault fields "inbox" 0 integer
    <*> withDefault fields "starred" 0 integer
    <*> withDefault fields "archived" 0 integer

/-- The counts that a value describes. -/
def ofJson (value : Json) : Except Failure TabCounts :=
  (object check value).toExcept "ViewCounts"

/-- The description of counts of tabs. -/
def toJson (counts : TabCounts) : Json :=
  .obj [("inbox", .int counts.inbox), ("starred", .int counts.starred),
    ("archived", .int counts.archived)]

/-- The schema reads the description of counts as those counts. -/
theorem ofJson_toJson (counts : TabCounts) : ofJson counts.toJson = .ok counts := rfl

end TabCounts

/-- Values with the number of notifications that have them, in a given order. -/
abbrev Groups := List (String × Int)

/-- How the notifications of the inbox are divided. -/
structure FacetTotals where
  owners : Groups := []
  repos : Groups := []
  /-- The names of an owner's repositories without the owner's name. -/
  reposByOwner : List (String × List String) := []
  types : Groups := []
  reasons : Groups := []
  states : Groups := []
  unread : Int := 0
  read : Int := 0
  bots : Int := 0
  humans : Int := 0
  deriving DecidableEq, Repr

namespace FacetTotals

/-- There is no notification to divide. -/
def isEmpty (totals : FacetTotals) : Bool :=
  totals.unread == 0 && totals.read == 0

/-- The number of notifications of a repository. -/
def countOfRepo (totals : FacetTotals) (name : String) : Int :=
  (totals.repos.lookup name).getD 0

/-- The short names of an owner's repositories. -/
def reposOf (totals : FacetTotals) (owner : String) : List String :=
  (totals.reposByOwner.lookup owner).getD []

/-- The fields of a division. -/
def check (fields : Json.Fields) : Checked FacetTotals :=
  FacetTotals.mk
    <$> withDefault fields "owners" [] (entries integer)
    <*> withDefault fields "repos" [] (entries integer)
    <*> withDefault fields "repos_by_owner" [] (entries (list text))
    <*> withDefault fields "types" [] (entries integer)
    <*> withDefault fields "reasons" [] (entries integer)
    <*> withDefault fields "states" [] (entries integer)
    <*> withDefault fields "unread" 0 integer
    <*> withDefault fields "read" 0 integer
    <*> withDefault fields "bots" 0 integer
    <*> withDefault fields "humans" 0 integer

/-- The division that a value describes. -/
def ofJson (value : Json) : Except Failure FacetTotals :=
  (object check value).toExcept "Facets"

end FacetTotals

end Triage
