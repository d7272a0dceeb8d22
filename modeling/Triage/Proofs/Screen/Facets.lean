import Triage.Proofs.Store.Groups
import Triage.Screen.Sidebar

/-!
# Facets in the sidebar

Which facets the sidebar has entries for, kind by kind, given how the inbox is
divided.
-/

namespace Triage

/-! ## Entries of one kind -/

/-- The value and the number of an entry for a kind of facet. -/
def SidebarItem.facetOf? (kind : FacetKind) : SidebarItem → Option (Json × Int)
  | .facet other value count => if other = kind then some (value, count) else none
  | _ => none

theorem SidebarItem.facetOf?_eq_some {kind : FacetKind} {item : SidebarItem} {value : Json}
    {count : Int} : item.facetOf? kind = some (value, count) ↔ item = .facet kind value count := by
  cases item <;> simp [facetOf?]

namespace Sidebar

variable {kind : FacetKind}

/-- The values and the numbers of the entries for a kind of facet. -/
def facetsOf (kind : FacetKind) (items : List SidebarItem) : List (Json × Int) :=
  items.filterMap (SidebarItem.facetOf? kind)

theorem mem_facetsOf {items : List SidebarItem} {value : Json} {count : Int} :
    (value, count) ∈ facetsOf kind items ↔ .facet kind value count ∈ items := by
  rw [facetsOf, List.mem_filterMap]
  constructor
  · rintro ⟨item, member, found⟩
    rwa [← SidebarItem.facetOf?_eq_some.1 found]
  · intro member
    exact ⟨_, member, SidebarItem.facetOf?_eq_some.2 rfl⟩

/-- The entries that are the same as that of a value. -/
theorem length_filter_sameAs (items : List SidebarItem) (value : Json) :
    (items.filter fun item => item.sameAs (.facet kind value 0)).length =
      (facetsOf kind items).countP fun entry => entry.1.agrees value := by
  rw [← List.countP_eq_length_filter, facetsOf, List.countP_filterMap]
  congr 1
  funext item
  cases item with
  | facet other given count =>
      by_cases same : other = kind
      · simp [SidebarItem.sameAs, SidebarItem.facetOf?, same]
      · simp [SidebarItem.sameAs, SidebarItem.facetOf?, same]
  | _ => rfl

theorem facetsOf_append (first second : List SidebarItem) :
    facetsOf kind (first ++ second) = facetsOf kind first ++ facetsOf kind second :=
  List.filterMap_append

theorem facetsOf_pinnedEntries (pinned : List PinnedSearch) :
    facetsOf kind (pinnedEntries pinned) = [] := by
  rw [facetsOf, List.filterMap_eq_nil_iff, pinnedEntries]
  intro item member
  split at member
  · exact absurd member List.not_mem_nil
  · simp only [List.mem_cons, List.mem_map] at member
    rcases member with rfl | rfl | ⟨search, _, rfl⟩ <;> rfl

/-- The entries of texts with their numbers. -/
def listed (values : Groups) : List (Json × Int) :=
  values.map fun value => (.str value.1, value.2)

/-- The entry of a truth value, unless its number is zero. -/
def flagListed (value : Bool) (count : Int) : List (Json × Int) :=
  if count == 0 then [] else [(.bool value, count)]

theorem facetsOf_textEntries (other : FacetKind) (values : Groups) :
    facetsOf kind (textEntries other values) = if other = kind then listed values else [] := by
  rw [facetsOf, textEntries, List.filterMap_map]
  split
  · next same => simp [SidebarItem.facetOf?, same, listed]
  · next differs => simp [Function.comp_def, SidebarItem.facetOf?, differs]

theorem facetsOf_flagEntry (other : FacetKind) (value : Bool) (count : Int) :
    facetsOf kind (flagEntry other value count) =
      if other = kind then flagListed value count else [] := by
  rw [facetsOf, flagEntry, flagListed]
  by_cases same : other = kind <;> split <;> simp [SidebarItem.facetOf?, same]

theorem facetsOf_group (label : String) {values : Groups} {entries : List SidebarItem}
    (none : values = [] → entries = []) :
    facetsOf kind (group label values entries) = facetsOf kind entries := by
  rw [group]
  split
  · next empty => rw [none (by simpa using empty)]
  · rfl

theorem facetsOf_unreadEntries (totals : FacetTotals) :
    facetsOf kind (unreadEntries totals) =
      if .unread = kind then flagListed true totals.unread ++ flagListed false totals.read
      else [] := by
  rw [unreadEntries]
  split
  · next nothing =>
      simp only [Bool.and_eq_true, beq_iff_eq] at nothing
      simp [facetsOf, flagListed, nothing]
  · change facetsOf kind (flagEntry .unread true totals.unread ++
      flagEntry .unread false totals.read) = _
    rw [facetsOf_append, facetsOf_flagEntry, facetsOf_flagEntry]
    split <;> rfl

theorem facetsOf_botEntries (totals : FacetTotals) :
    facetsOf kind (botEntries totals) =
      if .bot = kind ∧ totals.bots ≠ 0 then
        flagListed true totals.bots ++ flagListed false totals.humans
      else [] := by
  rw [botEntries]
  split
  · next none =>
      rw [beq_iff_eq] at none
      simp [facetsOf, none]
  · next some =>
      rw [beq_iff_eq] at some
      rw [facetsOf_append, facetsOf_flagEntry, facetsOf_flagEntry]
      by_cases same : FacetKind.bot = kind <;> simp [same, some]

/-- The repositories under an owner. -/
def repoListed (totals : FacetTotals) (owner : String) : List (Json × Int) :=
  (totals.reposOf owner).map fun short =>
    (.str (owner ++ "/" ++ short), totals.countOfRepo (owner ++ "/" ++ short))

theorem facetsOf_ownerEntries (totals : FacetTotals) :
    facetsOf kind (ownerEntries totals) =
      if .owner = kind then listed totals.owners
      else if .repo = kind then totals.owners.flatMap fun owner => repoListed totals owner.1
      else [] := by
  rw [facetsOf, ownerEntries, List.filterMap_flatMap]
  cases kind with
  | owner =>
      simp [List.filterMap_map, SidebarItem.facetOf?, Function.comp_def, listed,
        ← List.map_eq_flatMap]
  | repo =>
      simp [List.filterMap_map, SidebarItem.facetOf?, Function.comp_def, repoListed]
  | _ => simp [List.filterMap_map, SidebarItem.facetOf?, Function.comp_def]

/-- The values with their numbers that a division lists for a kind of facet. -/
def facetsIn (totals : FacetTotals) : FacetKind → List (Json × Int)
  | .owner => listed totals.owners
  | .repo => totals.owners.flatMap fun owner => repoListed totals owner.1
  | .reason => listed totals.reasons
  | .subjectType => listed totals.types
  | .subjectState => listed (orderedStates totals.states)
  | .unread => flagListed true totals.unread ++ flagListed false totals.read
  | .bot =>
      if totals.bots == 0 then []
      else flagListed true totals.bots ++ flagListed false totals.humans

/-- The sidebar has the entries of the division, kind by kind. -/
theorem facetsOf_items (counts : TabCounts) (pinned : List PinnedSearch) (totals : FacetTotals) :
    facetsOf kind (items counts pinned totals) = facetsIn totals kind := by
  have tabs : facetsOf kind (.header "Views" :: tabEntries counts) = [] := rfl
  rw [items]
  simp only [← List.cons_append, facetsOf_append, tabs, facetsOf_pinnedEntries,
    facetsOf_unreadEntries, facetsOf_botEntries]
  -- A group without values has no entries, so that its heading may be left out.
  rw [facetsOf_group "Status" fun none => by rw [none]; rfl,
    facetsOf_group "Type" fun none => by rw [none]; rfl,
    facetsOf_group "Reason" fun none => by rw [none]; rfl,
    facetsOf_group "Owners" fun none => by rw [ownerEntries, none]; rfl]
  simp only [facetsOf_textEntries, facetsOf_ownerEntries]
  cases kind <;> simp [facetsIn]

/-! ## States in the order of the sidebar -/

/-- A leading state is listed under its name with its number. -/
theorem leading_eq_some {states : Groups} {state : String} {entry : String × Int}
    (found : (match states.lookup state with
      | some count => if count == 0 then none else some (state, count)
      | none => none) = some entry) : entry.1 = state ∧ entry ∈ states := by
  split at found
  · next count known =>
      split at found
      · cases found
      · cases found
        obtain ⟨before, after, rfl, _⟩ := List.lookup_eq_some_iff.1 known
        simp
  · cases found

/-- Where each state is listed once and none with zero, ordering keeps all of them. -/
theorem mem_orderedStates {states : Groups} (distinct : (states.map Prod.fst).Nodup)
    (counted : ∀ entry ∈ states, entry.2 ≠ 0) {entry : String × Int} :
    entry ∈ orderedStates states ↔ entry ∈ states := by
  rw [orderedStates, List.mem_append, List.mem_filterMap, List.mem_filter]
  constructor
  · rintro (⟨state, _, found⟩ | ⟨member, _⟩)
    · exact (leading_eq_some found).2
    · exact member
  · intro member
    by_cases leads : entry.1 ∈ leadingStates
    · refine .inl ⟨entry.1, leads, ?_⟩
      rw [Keyed.lookup_of_mem distinct member]
      simp [counted entry member]
    · exact .inr ⟨member, by simpa using leads⟩

theorem nodup_orderedStates {states : Groups} (distinct : (states.map Prod.fst).Nodup) :
    ((orderedStates states).map Prod.fst).Nodup := by
  rw [orderedStates, List.map_append, List.nodup_append]
  refine ⟨?_, distinct.sublist (List.filter_sublist.map Prod.fst), ?_⟩
  · rw [List.map_filterMap]
    refine List.Nodup.filterMap (fun first second key one two => ?_)
      (by decide : leadingStates.Nodup)
    obtain ⟨entry, found, rfl⟩ := Option.map_eq_some_iff.1 one
    obtain ⟨other, found', same⟩ := Option.map_eq_some_iff.1 two
    rw [← (leading_eq_some found).1, ← (leading_eq_some found').1, same]
  · intro first leading second other same
    obtain ⟨entry, member, rfl⟩ := List.mem_map.1 leading
    obtain ⟨entry', member', rfl⟩ := List.mem_map.1 other
    obtain ⟨state, leads, found⟩ := List.mem_filterMap.1 member
    have apart := (List.mem_filter.1 member').2
    rw [← same, (leading_eq_some found).1] at apart
    simp [leads] at apart

end Sidebar

end Triage
