import Triage.Proofs.Store.Order
import Triage.Proofs.Store.Reachable
import Triage.Search.Criteria

/-!
# Views, searches and tab counts

A view of the store, the search that asks for the same flags among all
notifications, and the count on its tab agree.
-/

namespace Triage

/-! ## Searches for one property -/

namespace Search

/-- A search that only asks for a property keeps what has it. -/
theorem search_eq_filter {raw : String} {property : Notification → Bool}
    (asked : criteria (parse raw) = [fun record => property record == true])
    (records : List Notification) : search raw records = records.filter property := by
  rw [search, select, asked]
  apply List.filter_congr
  intro record _
  simp [meetsAll]

theorem criteria_inbox :
    criteria (parse "inbox:true") = [fun record => record.inInbox == true] := by
  have parsed : parse "inbox:true" = { operators := [("inbox", ["true"])] } := by decide +kernel
  rw [parsed]
  rfl

theorem criteria_starred :
    criteria (parse "is:starred") = [fun record => record.flags.starred == true] := by
  have parsed : parse "is:starred" = { operators := [("is", ["starred"])] } := by decide +kernel
  rw [parsed]
  rfl

theorem criteria_archived :
    criteria (parse "is:archived") = [fun record => record.flags.archived == true] := by
  have parsed : parse "is:archived" = { operators := [("is", ["archived"])] } := by
    decide +kernel
  rw [parsed]
  rfl

end Search

/-! ## Parts of the view of everything -/

namespace Store

variable {store : Store}

/-- A view shows the part of all notifications that it holds, in their order. -/
theorem Sound.shown_eq_filter (sound : store.Sound) (view : View) :
    store.shown view = (store.shown .all).filter fun record => view.holds record.flags := by
  rw [shown, shown, Table.view_eq_filter, List.filter_map]
  congr 1
  apply List.filter_congr
  intro row member
  rw [Function.comp_apply, (sound.notifications.of_mem_view member).flags_read]

theorem length_shown (store : Store) (view : View) :
    (store.shown view).length =
      store.notifications.rows.countP fun row => view.holds row.flags := by
  rw [(store.shown_perm view).length_eq, List.length_map, List.countP_eq_length_filter]

/-- The counts of the tabs are the lengths of the views. -/
theorem counts_eq_lengths (store : Store) :
    store.notifications.counts =
      { inbox := (store.shown .inbox).length
        starred := (store.shown .starred).length
        archived := (store.shown .archived).length } := by
  simp only [Table.counts, length_shown]

/-- After any writes to a new store all views can be loaded.  The inbox is what a
search for it finds among all notifications, and also those that neither are
archived nor muted; the starred and the archived ones are what a search for them
finds, each time in the same order.  The counts are the lengths of the views. -/
theorem views_agree_with_searches (writes : List Write) :
    ∃ store all inbox starred archived, afterWrites writes = .intact store ∧
      (loadNamed "all").run (.intact store) = (.ok all, .intact store) ∧
      (loadNamed "inbox").run (.intact store) = (.ok inbox, .intact store) ∧
      (loadNamed "starred").run (.intact store) = (.ok starred, .intact store) ∧
      (loadNamed "archived").run (.intact store) = (.ok archived, .intact store) ∧
      inbox = Search.search "inbox:true" all ∧
      inbox = all.filter Notification.inInbox ∧
      starred = Search.search "is:starred" all ∧
      archived = Search.search "is:archived" all ∧
      counts.run (.intact store) =
        (.ok ⟨inbox.length, starred.length, archived.length⟩, .intact store) := by
  obtain ⟨store, written, sound⟩ := exists_sound_afterWrites writes
  refine ⟨store, store.shown .all, store.shown .inbox, store.shown .starred,
    store.shown .archived, written, sound.run_loadNamed .all, sound.run_loadNamed .inbox,
    sound.run_loadNamed .starred, sound.run_loadNamed .archived, ?_, ?_, ?_, ?_, ?_⟩
  · rw [Search.search_eq_filter Search.criteria_inbox]
    exact sound.shown_eq_filter .inbox
  · exact sound.shown_eq_filter .inbox
  · rw [Search.search_eq_filter Search.criteria_starred]
    exact sound.shown_eq_filter .starred
  · rw [Search.search_eq_filter Search.criteria_archived]
    exact sound.shown_eq_filter .archived
  · rw [run_counts, counts_eq_lengths]

end Store

end Triage
