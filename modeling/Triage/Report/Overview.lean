import Triage.Report.Listing
import Triage.Search.Pinned
import Triage.Store.SyncStatus
import Triage.Summary

/-!
# Overviews

The counts of the tabs, the division of the inbox, the pinned searches and the
state of synchronisation.
-/

namespace Triage.Report

/-- A tab's name and count. -/
def countText (coloured : Bool) (name : String) (count : Int) : String :=
  name ++ " " ++ paint coloured [.bold] (toString count)

/-- The counts of the tabs in one line. -/
def countsLine (coloured : Bool) (counts : TabCounts) : String :=
  countText coloured "Inbox" counts.inbox ++ "  " ++
    countText coloured "Starred" counts.starred ++ "  " ++
    countText coloured "Archived" counts.archived

/-- The line of a value and its count in a division. -/
def groupLine (value : String) (count : Int) : String :=
  "  " ++ Text.padRight 24 value ++ " " ++ Text.padLeft 5 (toString count)

/-- The lines of a group under its title, after an empty line. -/
def groupLines (coloured : Bool) (title : String) (values : Groups) : List String :=
  if values.isEmpty then []
  else
    "" :: paint coloured [.bold] title :: values.map fun value => groupLine value.1 value.2

/-- The line of a repository below its owner. -/
def repoLine (coloured : Bool) (short : String) (count : Int) : String :=
  paint coloured [.dim]
    ("    " ++ Text.padRight 22 short ++ " " ++ Text.padLeft 5 (toString count))

/-- The lines of owners and their repositories, after an empty line. -/
def ownerLines (coloured : Bool) (totals : FacetTotals) : List String :=
  if totals.owners.isEmpty then []
  else
    "" :: paint coloured [.bold] "Owners" :: totals.owners.flatMap fun owner =>
      groupLine owner.1 owner.2 :: (totals.reposOf owner.1).map fun short =>
        repoLine coloured short (totals.countOfRepo (owner.1 ++ "/" ++ short))

/-- The division of the inbox. -/
def facets (coloured : Bool) (totals : FacetTotals) : String :=
  if totals.isEmpty then paint coloured [.dim] "Inbox is empty."
  else
    joinLines ([heading coloured "INBOX FACETS", "",
      "Unread " ++ toString totals.unread ++ "  Read " ++ toString totals.read,
      "Humans " ++ toString totals.humans ++ "  Bots " ++ toString totals.bots] ++
      groupLines coloured "Status" totals.states ++ groupLines coloured "Type" totals.types ++
      groupLines coloured "Reason" totals.reasons ++ ownerLines coloured totals)

/-- The number of a pinned search's matches: the one counted under its name,
which may be unknown, or else the one that the service gave. -/
def pinnedCount (counts : List (String × Option Int)) (search : PinnedSearch) : Option Int :=
  (counts.lookup search.name).getD search.count

/-- A count in front of a pinned search, or a dash without one. -/
def badge : Option Int → String
  | some count => Text.padLeft 5 (toString count)
  | none => "    -"

/-- The line of a pinned search behind its badge. -/
def pinnedLine (coloured : Bool) (badge : String) (search : PinnedSearch) : String :=
  badge ++ "  " ++ paint coloured [.bold] search.name ++ "  " ++
    paint coloured [.dim] search.query

/-- Lines of pinned searches under their heading. -/
def pinnedList (coloured : Bool) (lines : List String) : String :=
  if lines.isEmpty then paint coloured [.dim] "No pinned searches."
  else joinLines (heading coloured "PINNED SEARCHES" :: "" :: lines)

/-- The pinned searches. -/
def pinnedSearches (coloured : Bool) (counts : List (String × Option Int))
    (searches : List PinnedSearch) : String :=
  pinnedList coloured (searches.map fun search =>
    pinnedLine coloured (badge (pinnedCount counts search)) search)

/-- When the last synchronisation was. -/
def syncLine (coloured : Bool) (now : Timestamp) (status : Option SyncStatus) (stale : Bool) :
    String :=
  match status.bind (·.lastSync) with
  | none => paint coloured [.yellow] "Never synced"
  | some lastSync =>
      paint coloured [if stale then .yellow else .green]
        ("Last sync " ++ age now (some lastSync) ++ " ago" ++ if stale then " (stale)" else "")

/-- What went wrong in the last synchronisation, if anything did. -/
def errorLines (coloured : Bool) (status : Option SyncStatus) : List String :=
  match status.bind (·.error) with
  | none => []
  | some error =>
      if error.isEmpty then [] else [paint coloured [.red] ("Last error: " ++ error)]

/-- The counts of the tabs and the state of synchronisation. -/
def status (coloured : Bool) (now : Timestamp) (counts : TabCounts)
    (sync : Option SyncStatus) (stale : Bool) : String :=
  joinLines (countsLine coloured counts :: syncLine coloured now sync stale ::
    errorLines coloured sync)

end Triage.Report
