import Triage.Json.Agreement
import Triage.Json.Display
import Triage.Json.Parts
import Triage.Search.Facet
import Triage.Search.Pinned
import Triage.Summary

/-!
# The sidebar

The entries beside the list: headings, tabs, pinned searches and facets.  All but
headings and separators can be selected.  The value of a facet's entry may be any
value; whether a facet can have it shows when the list is narrowed.
-/

namespace Triage

/-- The tabs in their order. -/
def tabs : List String := ["inbox", "starred", "archived"]

/-- An entry of the sidebar. -/
inductive SidebarItem where
  | header (label : String)
  | separator
  | tab (view : String) (count : Int)
  | pinned (name query : String) (count : Option Int)
  | facet (kind : FacetKind) (value : Json) (count : Int)
  deriving DecidableEq, Repr

namespace SidebarItem

/-- Whether an entry can be selected. -/
def selectable : SidebarItem → Bool
  | .header _ => false
  | .separator => false
  | _ => true

/-- The facet of an entry that is one, unless no facet has its value. -/
def checkedFacet : SidebarItem → Except Schema.Failure (Option Facet)
  | .facet kind value _ => some <$> Facet.ofValue kind value
  | _ => .ok none

/-- The facet of an entry that is one and has a value for it. -/
def facet? (item : SidebarItem) : Option Facet :=
  item.checkedFacet.toOption.join

/-- What is wrong with the value of an entry. -/
def fault? (item : SidebarItem) : Option Schema.Failure :=
  match item.checkedFacet with
  | .ok _ => none
  | .error failure => some failure

/-- Whether two entries have the same kind and the same target; counts and
labels do not matter. -/
def sameAs : SidebarItem → SidebarItem → Bool
  | .header _, .header _ => true
  | .separator, .separator => true
  | .tab first _, .tab second _ => first == second
  | .pinned _ first _, .pinned _ second _ => first == second
  | .facet kind first _, .facet other second _ => kind == other && first.agrees second
  | _, _ => false

/-- The label of a tab. -/
def tabLabel (view : String) : String :=
  if tabs.contains view then Text.capitalize view else view

/-- The label of a facet's entry. -/
def facetLabel (kind : FacetKind) (value : Json) : String :=
  match kind with
  | .repo => Text.afterLastSlash value.plainText
  | .reason => Text.replaceChar '_' ' ' value.plainText
  | .subjectState => Text.capitalize value.plainText
  | .unread => if value.truthy then "Unread" else "Read"
  | .bot => if value.truthy then "Bots" else "Humans"
  | _ => value.plainText

/-- The label of an entry, if it has one. -/
def label? : SidebarItem → Option String
  | .header label => some label
  | .separator => none
  | .tab view _ => some (tabLabel view)
  | .pinned name _ _ => some name
  | .facet kind value _ => some (facetLabel kind value)

/-- The name of a kind of facet among the entries. -/
def facetKindName : FacetKind → String
  | .subjectState => "state"
  | kind => kind.name

/-- The kind of facet of a name among the entries. -/
def facetKind? (name : String) : Option FacetKind :=
  FacetKind.all.find? fun kind => facetKindName kind == name

/-- The name of an entry's kind and the fields that belong to it. -/
def describe : SidebarItem → String × Json.Fields
  | .header _ => ("header", [])
  | .separator => ("separator", [])
  | .tab view count => ("tab", [("view", .str view), ("count", .int count)])
  | .pinned name query count =>
      ("pinned", [("name", .str name), ("query", .str query), ("count", .ofInt? count)])
  | .facet kind value count =>
      (facetKindName kind, [("value", value), ("count", .int count)])

/-- The description of an entry. -/
def toJson (item : SidebarItem) : Json :=
  let label : Json.Fields :=
    match item.label? with
    | some label => [("label", .str label)]
    | none => []
  let described := item.describe
  .obj (("kind", .str described.1) :: ("selectable", .bool item.selectable) ::
    (label ++ described.2))

/-- The entry of a description; what is missing has a default, and an unknown
kind is a separator. -/
def ofJson (value : Json) : SidebarItem :=
  let count := value.field "count"
  match (value.field "kind").text with
  | "header" => .header (value.field "label").text
  | "tab" => .tab ((value.field "view").text?.getD "inbox") count.integer
  | "pinned" => .pinned (value.field "name").text (value.field "query").text count.int?
  | name =>
      match facetKind? name with
      | some kind => .facet kind ((value.field? "value").getD (.str "")) count.integer
      | none => .separator

@[simp] theorem facetKind?_name (kind : FacetKind) :
    facetKind? (facetKindName kind) = some kind := by
  cases kind <;> decide

/-- Entries of two facets are the same exactly when the facets are. -/
theorem sameAs_facet (first second : Facet) (count other : Int) :
    (facet first.kind first.value.toJson count).sameAs
      (facet second.kind second.value.toJson other) = true ↔ first = second := by
  cases first with
  | mk kind value =>
    cases second with
    | mk kind' value' =>
      cases value <;> cases value' <;>
        simp [sameAs, FacetValue.toJson, Json.agrees, Json.wholeOf]

end SidebarItem

namespace Sidebar

/-- The entries for texts of one kind. -/
def textEntries (kind : FacetKind) (values : Groups) : List SidebarItem :=
  values.map fun value => .facet kind (.str value.1) value.2

/-- Entries under a heading for a division, or nothing if it is empty. -/
def group (label : String) (values : Groups) (entries : List SidebarItem) :
    List SidebarItem :=
  if values.isEmpty then [] else .header label :: entries

/-- An entry for a truth value, unless its count is zero. -/
def flagEntry (kind : FacetKind) (value : Bool) (count : Int) : List SidebarItem :=
  if count == 0 then [] else [.facet kind (.bool value) count]

/-- The states that come first, in their order. -/
def leadingStates : List String := ["open", "merged", "closed"]

/-- States in the order of the sidebar: the leading ones that occur, then all
others. -/
def orderedStates (states : Groups) : Groups :=
  (leadingStates.filterMap fun state =>
    match states.lookup state with
    | some count => if count == 0 then none else some (state, count)
    | none => none) ++
  (states.filter fun state => !leadingStates.contains state.1)

/-- The entries of the tabs. -/
def tabEntries (counts : TabCounts) : List SidebarItem :=
  [.tab "inbox" counts.inbox, .tab "starred" counts.starred, .tab "archived" counts.archived]

/-- The entries of pinned searches. -/
def pinnedEntries (pinned : List PinnedSearch) : List SidebarItem :=
  if pinned.isEmpty then []
  else
    .separator :: .header "Pinned" ::
      pinned.map fun search => .pinned search.name search.query search.count

/-- The entries for what is unread and what is read. -/
def unreadEntries (totals : FacetTotals) : List SidebarItem :=
  if totals.unread == 0 && totals.read == 0 then []
  else
    .separator :: (flagEntry .unread true totals.unread ++ flagEntry .unread false totals.read)

/-- The entries for programs and people; people are listed only beside
programs. -/
def botEntries (totals : FacetTotals) : List SidebarItem :=
  if totals.bots == 0 then []
  else flagEntry .bot true totals.bots ++ flagEntry .bot false totals.humans

/-- The entries of owners, each followed by those of its repositories. -/
def ownerEntries (totals : FacetTotals) : List SidebarItem :=
  totals.owners.flatMap fun owner =>
    .facet .owner (.str owner.1) owner.2 ::
      (totals.reposOf owner.1).map fun short =>
        let name := owner.1 ++ "/" ++ short
        .facet .repo (.str name) (totals.countOfRepo name)

/-- The sidebar for counts, pinned searches and a division of the inbox. -/
def items (counts : TabCounts) (pinned : List PinnedSearch) (totals : FacetTotals) :
    List SidebarItem :=
  .header "Views" :: (tabEntries counts ++ pinnedEntries pinned ++ unreadEntries totals ++
    botEntries totals ++
    group "Status" totals.states (textEntries .subjectState (orderedStates totals.states)) ++
    group "Type" totals.types (textEntries .subjectType totals.types) ++
    group "Reason" totals.reasons (textEntries .reason totals.reasons) ++
    group "Owners" totals.owners (ownerEntries totals))

end Sidebar

end Triage
