import Triage.Proofs.Store.Runs
import Triage.Search.Criteria

/-!
# Apart from the times of writing

Every write leaves its time in the row.  Views, counts, divisions and searches do
not look at it, so that rows which differ in it only are shown in the same way.
-/

namespace Triage

/-- A row without its time of writing. -/
def Row.unfetched (row : Row) : Row :=
  { row with fetchedAt := none }

/-- A notification without the time when it was fetched. -/
def Notification.unfetched (record : Notification) : Notification :=
  { record with fetchedAt := none }

/-- What a sound row holds apart from the time of writing. -/
theorem Row.Sound.read_unfetched {row : Row} (sound : row.Sound) :
    row.unfetched.read = row.read.unfetched := by
  obtain ⟨record, utc, rfl⟩ := sound.written
  have known : record.unfetched.InUtc :=
    ⟨utc.createdAt, utc.updatedAt, utc.lastReadAt, Timestamp.inUtc?_none⟩
  rw [read_written utc]
  exact read_written known

/-- A division of rows does not depend on the times of writing. -/
theorem FacetTotals.ofRows_map_unfetched (rows : List Row) :
    FacetTotals.ofRows (rows.map Row.unfetched) = FacetTotals.ofRows rows := by
  simp only [FacetTotals.ofRows, List.filterMap_map, List.map_map, List.countP_map,
    List.length_map]
  rfl

/-! ## Tables -/

namespace Table

/-- The rows are the same apart from the times of writing. -/
def Alike (first second : Table) : Prop :=
  first.rows.map Row.unfetched = second.rows.map Row.unfetched

theorem Alike.refl (table : Table) : table.Alike table :=
  rfl

variable {first second : Table}

/-- Whether a row is in a view does not depend on its time of writing. -/
theorem Alike.countP_holds (alike : first.Alike second) (view : View) :
    first.rows.countP (fun row => view.holds row.flags) =
      second.rows.countP fun row => view.holds row.flags := by
  have through : ∀ rows : List Row, rows.countP (fun row => view.holds row.flags) =
      (rows.map Row.unfetched).countP fun row => view.holds row.flags := by
    intro rows
    rw [List.countP_map]
    rfl
  rw [through, alike, ← through]

theorem Alike.counts (alike : first.Alike second) : first.counts = second.counts := by
  simp only [Table.counts, alike.countP_holds]

theorem map_unfetched_filter (rows : List Row) (view : View) :
    (rows.filter fun row => view.holds row.flags).map Row.unfetched =
      (rows.map Row.unfetched).filter fun row => view.holds row.flags := by
  rw [List.filter_map]
  rfl

theorem Alike.totals (alike : first.Alike second) : first.totals = second.totals := by
  rw [Table.totals, Table.totals, ← FacetTotals.ofRows_map_unfetched, map_unfetched_filter, alike,
    ← map_unfetched_filter, FacetTotals.ofRows_map_unfetched]

/-- The order of a view does not look at the times of writing. -/
theorem map_unfetched_view (table : Table) (view : View) :
    (table.view view).map Row.unfetched =
      ((table.rows.map Row.unfetched).filter fun row => view.holds row.flags).mergeSort
        Row.comesFirst := by
  have ordered : ∀ first ∈ table.rows.filter fun row => view.holds row.flags,
      ∀ second ∈ table.rows.filter fun row => view.holds row.flags,
        first.comesFirst second = first.unfetched.comesFirst second.unfetched :=
    fun _ _ _ _ => rfl
  rw [Table.view, List.map_mergeSort ordered, map_unfetched_filter]

theorem Alike.view (alike : first.Alike second) (view : View) :
    (first.view view).map Row.unfetched = (second.view view).map Row.unfetched := by
  rw [map_unfetched_view, map_unfetched_view, alike]

end Table

/-- A sound store shows rows apart from their times of writing. -/
theorem Store.Sound.map_unfetched_shown {store : Store} (sound : store.Sound) (view : View) :
    (store.shown view).map Notification.unfetched =
      ((store.notifications.view view).map Row.unfetched).map Row.read := by
  rw [Store.shown, List.map_map, List.map_map]
  apply List.map_congr_left
  intro row member
  exact (sound.notifications.of_mem_view member).read_unfetched.symm

/-- Two sound stores with the same rows apart from the times of writing show the
same. -/
theorem Store.Sound.shown_alike {first second : Store} (one : first.Sound) (two : second.Sound)
    (alike : first.notifications.Alike second.notifications) (view : View) :
    (first.shown view).map Notification.unfetched =
      (second.shown view).map Notification.unfetched := by
  rw [one.map_unfetched_shown, two.map_unfetched_shown, alike.view]

/-! ## Searches -/

namespace Search

/-- A condition that does not look at the time when a notification was fetched. -/
def Criterion.Blind (condition : Criterion) : Prop :=
  ∀ record, condition record.unfetched = condition record

theorem blind_keeps (facet : Facet) : Criterion.Blind facet.keeps := by
  intro record
  unfold Facet.keeps
  cases facet.kind <;> rfl

theorem blind_freeTextCriteria (query : Query) :
    ∀ condition ∈ freeTextCriteria query, condition.Blind := by
  intro condition member
  rw [freeTextCriteria] at member
  split at member
  · simp at member
  · rw [List.mem_singleton.1 member]
    intro record
    rfl

/-- The compared fields are not the time when a notification was fetched. -/
theorem read_unfetched_of_mem {field : ComparedField} (member : field ∈ comparedFields)
    (record : Notification) : field.read record.unfetched = field.read record := by
  simp only [comparedFields, List.mem_cons, List.not_mem_nil, or_false] at member
  rcases member with rfl | rfl | rfl | rfl | rfl <;> rfl

theorem blind_fieldCriteria (query : Query) (sign : String) (wanted : Bool) :
    ∀ condition ∈ fieldCriteria query sign wanted, condition.Blind := by
  intro condition member
  obtain ⟨field, known, made⟩ := List.mem_filterMap.1 member
  split at made
  · cases made
  · rw [← Option.some.inj made]
    intro record
    simp only [ComparedField.holds, read_unfetched_of_mem known]

theorem blind_typeCriteria (query : Query) :
    ∀ condition ∈ typeCriteria query, condition.Blind := by
  intro condition member
  simp only [typeCriteria] at member
  rcases List.mem_append.1 member with inside | inside
  all_goals
    split at inside
    · rw [List.mem_singleton.1 inside]
      intro record
      rfl
    · simp at inside

theorem blind_wishCriterion {property : Notification → Bool} (blind : Criterion.Blind property)
    (wish : Option Bool) : ∀ condition ∈ wishCriterion property wish, condition.Blind := by
  intro condition member
  cases wish with
  | none => simp [wishCriterion] at member
  | some wanted =>
      rw [List.mem_singleton.1 member]
      intro record
      exact congrArg (· == wanted) (blind record)

theorem blind_wishCriteria (wishes : FlagWishes) :
    ∀ condition ∈ wishCriteria wishes, condition.Blind := by
  intro condition member
  simp only [wishCriteria, List.mem_append] at member
  rcases member with ((((inside | inside) | inside) | inside) | inside) | inside
  all_goals exact blind_wishCriterion (fun _ => rfl) _ condition inside

/-- No criterion of a query looks at the time when a notification was fetched. -/
theorem blind_criteria (query : Query) : ∀ condition ∈ criteria query, condition.Blind := by
  intro condition member
  simp only [criteria, List.mem_append] at member
  rcases member with (((inside | inside) | inside) | inside) | inside
  · exact blind_freeTextCriteria query condition inside
  · exact blind_fieldCriteria query _ _ condition inside
  · exact blind_typeCriteria query condition inside
  · exact blind_fieldCriteria query _ _ condition inside
  · exact blind_wishCriteria _ condition inside

theorem meetsAll_unfetched {conditions : List Criterion}
    (blind : ∀ condition ∈ conditions, condition.Blind) (record : Notification) :
    meetsAll conditions record.unfetched = meetsAll conditions record := by
  unfold meetsAll
  induction conditions with
  | nil => rfl
  | cons condition rest ih =>
      rw [List.all_cons, List.all_cons, blind condition List.mem_cons_self,
        ih fun other member => blind other (List.mem_cons_of_mem _ member)]

/-- A search does not look at the times when notifications were fetched. -/
theorem map_unfetched_select (facet : Option Facet) (query : Query) (records : List Notification) :
    (select facet query records).map Notification.unfetched =
      select facet query (records.map Notification.unfetched) := by
  have blind : ∀ condition ∈ (facet.map Facet.keeps).toList ++ criteria query,
      Criterion.Blind condition := by
    intro condition member
    rcases List.mem_append.1 member with narrowing | asked
    · obtain ⟨known, _, rfl⟩ := Option.map_eq_some_iff.1 (Option.mem_toList.1 narrowing)
      exact blind_keeps known
    · exact blind_criteria query condition asked
  simp only [select]
  rw [List.filter_map]
  congr 2
  funext record
  exact (meetsAll_unfetched blind record).symm

end Search

end Triage
