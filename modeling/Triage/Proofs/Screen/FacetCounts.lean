import Triage.Proofs.Screen.Answer
import Triage.Proofs.Screen.Facets
import Triage.Proofs.Store.Order
import Triage.Proofs.Store.Reachable
import Triage.Proofs.Text.Case

/-!
# Numbers beside facets

The number beside a facet is the length of the list that selecting it leaves of the
inbox, and every value that occurs in the inbox has one entry.
-/

namespace Triage

/-! ## Values in rows -/

namespace Row

/-- The value of a field in a row; an absent field has none. -/
def facetValue (row : Row) : FacetKind → Option FacetValue
  | .owner => row.repo.owner.map .text
  | .repo => row.repo.name.map .text
  | .reason => row.reason.map .text
  | .subjectType => row.subject.kind.map .text
  | .subjectState => row.subject.state.map .text
  | .unread => some (.flag row.flags.unread)
  | .bot => some (.flag row.isBot)

/-- The author of a row can be compared in whole. -/
def WholeAuthor (row : Row) : Prop :=
  ∀ author ∈ row.subject.author, Text.NulFree author

/-- A sound row has the values of the notification that it holds. -/
theorem Sound.valueIn_read {row : Row} (sound : row.Sound) {kind : FacetKind}
    (whole : kind = .bot → row.WholeAuthor) :
    Facet.valueIn row.read kind = row.facetValue kind := by
  obtain ⟨record, utc, rfl⟩ := sound.written
  rw [read_written utc]
  cases kind with
  | bot =>
      have same : record.written.isBot = record.isBot := isBot_eq rfl (whole rfl)
      rw [Facet.valueIn, facetValue, same]
  | _ => rfl

theorem Sound.author_read {row : Row} (sound : row.Sound) :
    row.read.subject.author = row.subject.author := by
  obtain ⟨record, utc, rfl⟩ := sound.written
  rw [read_written utc]
  rfl

end Row

namespace Sidebar

/-! ## Numbers in a division -/

variable {rows : List Row} {value : Json} {count : Int}

/-- A text listed for a field has the number of the rows with this text. -/
theorem count_of_mem_listed {field : Row → Option String} {kind : FacetKind}
    (known : ∀ row, Row.facetValue row kind = (field row).map .text) {values : Groups}
    (listedOnly : ∀ entry ∈ values, entry ∈ groupTexts (rows.filterMap field))
    (member : (value, count) ∈ listed values) :
    ∃ text, value = FacetValue.toJson text ∧
      count = rows.countP fun row => row.facetValue kind == some text := by
  obtain ⟨entry, present, equal⟩ := List.mem_map.1 member
  obtain ⟨rfl, rfl⟩ := Prod.mk.inj equal
  refine ⟨.text entry.1, rfl, ?_⟩
  rw [(mem_groupTexts.1 (listedOnly entry present)).2, List.count_filterMap]
  congr 2
  funext row
  rw [known row, Bool.eq_iff_iff]
  simp

theorem mem_flagListed {flag : Bool} {number : Int} :
    (value, count) ∈ flagListed flag number ↔ value = .bool flag ∧ count = number ∧ number ≠ 0 := by
  rw [flagListed]
  split
  · next zero => simp [beq_iff_eq.1 zero]
  · next given => simp [beq_iff_eq.not.1 given]

theorem flag_beq_flag (first second : Bool) :
    (some (FacetValue.flag first) == some (FacetValue.flag second)) = (first == second) := by
  cases first <;> cases second <;> rfl

/-- A truth value listed for a field has the number of the rows with this value. -/
theorem count_of_mem_flagListed {field : Row → Bool} {kind : FacetKind}
    (known : ∀ row, Row.facetValue row kind = some (.flag (field row))) {yes no : Int}
    (counted : yes = rows.countP field) (others : no = rows.countP fun row => !field row)
    (member : (value, count) ∈ flagListed true yes ++ flagListed false no) :
    ∃ known : FacetValue, value = known.toJson ∧
      count = rows.countP fun row => row.facetValue kind == some known := by
  simp only [known]
  rcases List.mem_append.1 member with holds | fails
  · obtain ⟨rfl, rfl, _⟩ := mem_flagListed.1 holds
    exact ⟨.flag true, rfl, by simpa only [flag_beq_flag, beq_true] using counted⟩
  · obtain ⟨rfl, rfl, _⟩ := mem_flagListed.1 fails
    exact ⟨.flag false, rfl, by simpa only [flag_beq_flag, beq_false] using others⟩

/-- What a division of rows lists for a kind of facet is a value with the number of
the rows that have it. -/
theorem count_of_mem_facetsIn {kind : FacetKind}
    (member : (value, count) ∈ facetsIn (FacetTotals.ofRows rows) kind) :
    ∃ known : FacetValue, value = known.toJson ∧
      count = rows.countP fun row => row.facetValue kind == some known := by
  cases kind with
  | owner => exact count_of_mem_listed (fun _ => rfl) (fun _ present => present) member
  | reason => exact count_of_mem_listed (fun _ => rfl) (fun _ present => present) member
  | subjectType => exact count_of_mem_listed (fun _ => rfl) (fun _ present => present) member
  | subjectState =>
      refine count_of_mem_listed (fun _ => rfl) (fun entry present => ?_) member
      exact (mem_orderedStates (nodup_groupTexts _) fun _ => groupTexts_ne_zero).1 present
  | repo =>
      obtain ⟨owner, _, inside⟩ := List.mem_flatMap.1 member
      obtain ⟨short, _, equal⟩ := List.mem_map.1 inside
      obtain ⟨rfl, rfl⟩ := Prod.mk.inj equal
      refine ⟨.text (owner.1 ++ "/" ++ short), rfl, ?_⟩
      rw [FacetTotals.countOfRepo, FacetTotals.ofRows, lookup_groupTexts, List.count_filterMap]
      congr 2
      funext row
      rw [Row.facetValue, Bool.eq_iff_iff]
      simp
  | unread => exact count_of_mem_flagListed (fun _ => rfl) rfl rfl member
  | bot =>
      rw [facetsIn] at member
      split at member
      · exact absurd member List.not_mem_nil
      · refine count_of_mem_flagListed (fun _ => rfl) rfl ?_ member
        have parts := rows.length_eq_countP_add_countP Row.isBot
        simp only [Bool.not_eq_true, Bool.decide_eq_false] at parts
        simp only [FacetTotals.ofRows]
        omega

/-- Every text that rows have in a field is listed once for it. -/
theorem countP_listed {values : Groups} (distinct : (values.map Prod.fst).Nodup) {text : String}
    (occurs : text ∈ values.map Prod.fst) :
    (listed values).countP (fun entry => entry.1.agrees (.str text)) = 1 := by
  rw [← List.count_eq_one_of_mem distinct occurs, listed, List.countP_map, List.count_eq_countP,
    List.countP_map]
  congr 1
  funext entry
  simp

/-- The kinds of facet whose values are texts that each have one entry. -/
def listedKinds : List FacetKind := [.owner, .subjectType, .reason, .subjectState]

theorem countP_facetsIn {kind : FacetKind} (allowed : kind ∈ listedKinds) {text : String}
    (occurs : ∃ row ∈ rows, row.facetValue kind = some (.text text)) :
    (facetsIn (FacetTotals.ofRows rows) kind).countP
      (fun entry => entry.1.agrees (.str text)) = 1 := by
  obtain ⟨row, present, has⟩ := occurs
  -- Each of these kinds reads one field of a row as text.
  have grouped {field : Row → Option String} (known : field row = some text) :
      text ∈ (groupTexts (rows.filterMap field)).map Prod.fst :=
    mem_map_fst_groupTexts.2 (List.mem_filterMap.2 ⟨row, present, known⟩)
  simp only [listedKinds, List.mem_cons, List.not_mem_nil, or_false] at allowed
  rcases allowed with rfl | rfl | rfl | rfl
  all_goals
    obtain ⟨given, known, same⟩ := Option.map_eq_some_iff.1 has
    cases same
  · exact countP_listed (nodup_groupTexts _) (grouped known)
  · exact countP_listed (nodup_groupTexts _) (grouped known)
  · exact countP_listed (nodup_groupTexts _) (grouped known)
  · refine countP_listed (nodup_orderedStates (nodup_groupTexts _)) ?_
    obtain ⟨entry, member, rfl⟩ := List.mem_map.1 (@grouped (fun row => row.subject.state) known)
    exact List.mem_map_of_mem ((mem_orderedStates (nodup_groupTexts _)
      fun _ => groupTexts_ne_zero).2 member)

end Sidebar

/-! ## Lists that facets leave -/

namespace Screen

/-- A facet leaves the notifications whose field has its value. -/
theorem visible_of_facet {screen : Screen} (searchQuery : screen.searchQuery = "")
    (kind : FacetKind) (known : FacetValue) (count : Int) :
    { screen with selection := some (.facet kind known.toJson count) }.visible =
      screen.notifications.filter (Facet.keeps ⟨kind, known⟩) := by
  have facet : (SidebarItem.facet kind known.toJson count).facet? = some ⟨kind, known⟩ := by
    have valid : Facet.ofValue kind known.toJson = .ok ⟨kind, known⟩ :=
      Facet.ofValue_toJson ⟨kind, known⟩
    rw [SidebarItem.facet?, SidebarItem.checkedFacet, valid]
    rfl
  rw [visible, searchQuery, Search.parse_empty, Option.bind_some, facet]
  exact Search.select_facet _ _

end Screen

namespace Store

variable {store : Store}

/-- The rows of the inbox. -/
def inboxRows (store : Store) : List Row :=
  store.notifications.rows.filter fun row => View.inbox.holds row.flags

theorem Sound.of_mem_inboxRows (sound : store.Sound) {row : Row} (member : row ∈ store.inboxRows) :
    row.Sound :=
  sound.notifications row (List.mem_filter.1 member).1

/-- In the inbox a facet leaves as many notifications as there are rows with its
value. -/
theorem Sound.length_filter_keeps (sound : store.Sound) (facet : Facet)
    (whole : facet.kind = .bot → ∀ row ∈ store.inboxRows, row.WholeAuthor) :
    ((store.shown .inbox).filter facet.keeps).length =
      store.inboxRows.countP fun row => row.facetValue facet.kind == some facet.value := by
  rw [((store.shown_perm .inbox).filter _).length_eq, ← List.countP_eq_length_filter,
    List.countP_map]
  apply List.countP_congr
  intro row member
  have known := sound.of_mem_inboxRows member
  rw [Function.comp_apply, Facet.keeps, known.valueIn_read fun bot => whole bot row member]

/-- A value in the inbox is that of a row. -/
theorem Sound.exists_row_of_valueIn (sound : store.Sound) {kind : FacetKind} (texts : kind ≠ .bot)
    {record : Notification} (member : record ∈ store.shown .inbox) {value : FacetValue}
    (has : Facet.valueIn record kind = some value) :
    ∃ row ∈ store.inboxRows, row.facetValue kind = some value := by
  rw [(store.shown_perm .inbox).mem_iff, List.mem_map] at member
  obtain ⟨row, present, rfl⟩ := member
  have known := sound.of_mem_inboxRows present
  rw [known.valueIn_read fun bot => absurd bot texts] at has
  exact ⟨row, present, has⟩

end Store

namespace Screen

/-- After any writes to a new store the inbox, the counts and the division of the
inbox can be read, and a screen shows them.  Without a search text each facet in its
sidebar can be selected and then leaves as many notifications as the number beside it
says; for programs and people no author may hold a NUL.  Every owner, type, reason and
state that occurs in the inbox has one entry. -/
theorem facet_numbers_are_lengths (writes : List Store.Write) (before : Screen) :
    ∃ store notifications counts totals, Store.afterWrites writes = .intact store ∧
      (Store.loadNamed "inbox").run (.intact store) = (.ok notifications, .intact store) ∧
      Store.counts.run (.intact store) = (.ok counts, .intact store) ∧
      Store.totals.run (.intact store) = (.ok totals, .intact store) ∧
      ∀ screen, screen = (loaded { before with view := "inbox", searchQuery := "" } "inbox"
          notifications counts totals).1 →
        (∀ kind value count, .facet kind value count ∈ screen.sidebar →
          (kind = .bot → ∀ record ∈ notifications, ∀ author ∈ record.subject.author,
            Text.NulFree author) →
          { screen with selection := some (.facet kind value count) }.selectionFault? = none ∧
            ({ screen with selection := some (.facet kind value count) }.visible.length : Int) =
              count) ∧
        ∀ kind ∈ [FacetKind.owner, .subjectType, .reason, .subjectState], ∀ text,
          (∃ record ∈ notifications, Facet.valueIn record kind = some (.text text)) →
            (screen.sidebar.filter fun item =>
              item.sameAs (.facet kind (.str text) 0)).length = 1 := by
  obtain ⟨store, written, sound⟩ := Store.exists_sound_afterWrites writes
  refine ⟨store, store.shown .inbox, store.notifications.counts, store.notifications.totals,
    written, sound.run_loadNamed .inbox, Store.run_counts store, Store.run_totals store, ?_⟩
  rintro screen shown
  have sidebar : screen.sidebar = Sidebar.items store.notifications.counts before.pinned
      (FacetTotals.ofRows store.inboxRows) := by
    rw [shown]
    rfl
  have notifications : screen.notifications = store.shown .inbox := by
    rw [shown]
    rfl
  have searchQuery : screen.searchQuery = "" := by
    rw [shown]
    rfl
  constructor
  · intro kind value count member whole
    rw [sidebar, ← Sidebar.mem_facetsOf, Sidebar.facetsOf_items] at member
    obtain ⟨known, rfl, counted⟩ := Sidebar.count_of_mem_facetsIn member
    have authors : kind = .bot → ∀ row ∈ store.inboxRows, row.WholeAuthor := by
      intro bot row present author given
      have inShown : row.read ∈ store.shown .inbox :=
        (store.shown_perm .inbox).mem_iff.2 (List.mem_map_of_mem present)
      have rowSound := sound.of_mem_inboxRows present
      exact whole bot row.read inShown author (rowSound.author_read.trans given)
    refine ⟨Sidebar.usable_facet kind known count, ?_⟩
    rw [visible_of_facet searchQuery, notifications,
      sound.length_filter_keeps ⟨kind, known⟩ authors, counted]
  · rintro kind allowed text ⟨record, member, has⟩
    rw [Sidebar.length_filter_sameAs, sidebar, Sidebar.facetsOf_items]
    have texts : kind ≠ .bot := by
      rintro rfl
      revert allowed
      decide
    exact Sidebar.countP_facetsIn allowed (sound.exists_row_of_valueIn texts member has)

end Screen

end Triage
