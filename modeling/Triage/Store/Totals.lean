import Triage.Store.Table
import Triage.Summary

/-!
# Views and totals

What can be read off the rows of the store: the views, each with its order, the
number of rows in each tab, and how those of the inbox are divided.
-/

namespace Triage

/-- The parts of the store that can be shown as a list. -/
inductive View where
  | inbox
  | starred
  | archived
  | all
  deriving DecidableEq, Repr

namespace View

/-- Every view, in the order in which views are listed. -/
def every : List View := [.inbox, .starred, .archived, .all]

/-- The name of a view. -/
def name : View → String
  | .inbox => "inbox"
  | .starred => "starred"
  | .archived => "archived"
  | .all => "all"

/-- The view of a name. -/
def ofName? (name : String) : Option View :=
  every.find? fun view => view.name == name

/-- Whether a notification with the given flags is in the view. -/
def holds (view : View) (flags : Flags) : Bool :=
  match view with
  | .inbox => !flags.archived && !flags.muted
  | .starred => flags.starred
  | .archived => flags.archived
  | .all => true

@[simp] theorem ofName?_name (view : View) : ofName? view.name = some view := by
  cases view <;> decide

end View

namespace Row

/-- The order of a view: the later update comes first, and no update comes
last. -/
def comesFirst (first second : Row) : Bool :=
  match first.updatedAt, second.updatedAt with
  | _, none => true
  | none, some _ => false
  | some first, some second => !decide (first < second)

/-- Whether a stored author looks like a program: only letters of ASCII are
compared without case, and the text counts up to the first NUL. -/
def isBot (row : Row) : Bool :=
  match row.subject.author with
  | none => false
  | some author =>
      let name := String.ofList
        ((Text.asciiLower author).toList.takeWhile fun character => character.toNat != 0)
      !author.isEmpty && (Text.contains "[bot]" name || Text.endsWith "-bot" name)

end Row

namespace Table

/-- The rows of a view, the latest update first, rows of the same time by
number. -/
def view (table : Table) (view : View) : List Row :=
  (table.rows.filter fun row => view.holds row.flags).mergeSort Row.comesFirst

/-- The number of rows in each tab. -/
def counts (table : Table) : TabCounts where
  inbox := table.rows.countP fun row => View.inbox.holds row.flags
  starred := table.rows.countP fun row => View.starred.holds row.flags
  archived := table.rows.countP fun row => View.archived.holds row.flags

end Table

/-- The distinct texts of a list in ascending order. -/
def distinctSorted (texts : List String) : List String :=
  texts.eraseDups.mergeSort fun first second => !decide (second < first)

/-- The distinct texts of a list with the number of their occurrences, the most
frequent first, texts of the same number in ascending order. -/
def groupTexts (texts : List String) : Groups :=
  ((distinctSorted texts).map fun text => (text, (texts.count text : Int))).mergeSort
    fun first second => decide (second.2 ≤ first.2)

namespace FacetTotals

/-- An owner and the last part of a repository's name, where both are given. -/
def ownerAndShort? (repo : Repo) : Option (String × String) := do
  let owner ← repo.owner
  let name ← repo.name
  some (owner, Text.afterLastSlash name)

/-- The distinct short names of each owner's repositories. -/
def shortNames (repos : List Repo) : List (String × List String) :=
  let pairs := repos.filterMap ownerAndShort?
  (distinctSorted (pairs.map Prod.fst)).map fun owner =>
    (owner, distinctSorted ((pairs.filter fun pair => pair.1 == owner).map Prod.snd))

/-- How rows are divided. -/
def ofRows (rows : List Row) : FacetTotals where
  owners := groupTexts (rows.filterMap (·.repo.owner))
  repos := groupTexts (rows.filterMap (·.repo.name))
  reposByOwner := shortNames (rows.map (·.repo))
  types := groupTexts (rows.filterMap (·.subject.kind))
  reasons := groupTexts (rows.filterMap (·.reason))
  states := groupTexts (rows.filterMap (·.subject.state))
  unread := rows.countP (·.flags.unread)
  read := rows.countP fun row => !row.flags.unread
  bots := rows.countP Row.isBot
  humans := rows.length - rows.countP Row.isBot

end FacetTotals

/-- How the rows of the inbox are divided. -/
def Table.totals (table : Table) : FacetTotals :=
  FacetTotals.ofRows (table.rows.filter fun row => View.inbox.holds row.flags)

end Triage
