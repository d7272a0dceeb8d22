import Triage.Proofs.Screen.Cursor
import Triage.Proofs.Screen.Run

/-!
# Undoing a failed action

An action is shown at once and undone when its request fails.  Everything comes
back then apart from the times of writing, except for the cursor: if the action
made the visible list too short for it, it stays where that list ended.
-/

namespace Triage

/-! ## The list -/

namespace Screen

variable {first second : Screen}

/-- The same list, apart from the times when notifications were fetched, is
narrowed in the same way. -/
structure Alike (first second : Screen) : Prop where
  notifications : first.notifications.map Notification.unfetched =
    second.notifications.map Notification.unfetched
  selection : first.selection = second.selection
  searchQuery : first.searchQuery = second.searchQuery

theorem Alike.narrowed (alike : first.Alike second) :
    first.narrowed.map Notification.unfetched = second.narrowed.map Notification.unfetched := by
  rw [Screen.narrowed, Screen.narrowed, alike.selection]
  split
  · simp only [Search.search, Search.map_unfetched_select, alike.notifications]
  · exact alike.notifications

theorem Alike.visible (alike : first.Alike second) :
    first.visible.map Notification.unfetched = second.visible.map Notification.unfetched := by
  rw [Screen.visible, Screen.visible, Search.map_unfetched_select, Search.map_unfetched_select,
    alike.narrowed, alike.selection, alike.searchQuery]

theorem Alike.lastIndex (alike : first.Alike second) : first.lastIndex = second.lastIndex := by
  have lengths := congrArg List.length alike.visible
  rw [List.length_map, List.length_map] at lengths
  rw [Screen.lastIndex, Screen.lastIndex, lengths]

/-- The visible list is part of what was read, in the same order. -/
theorem sublist_visible (screen : Screen) : screen.visible.Sublist screen.notifications := by
  have narrowed : screen.narrowed.Sublist screen.notifications := by
    rw [Screen.narrowed]
    split
    · exact List.filter_sublist
    · exact List.Sublist.refl _
  exact List.filter_sublist.trans narrowed

/-- Without a selected entry and a search text everything is visible. -/
theorem visible_eq {screen : Screen} (selection : screen.selection = none)
    (searchQuery : screen.searchQuery = "") : screen.visible = screen.notifications := by
  rw [visible, Screen.narrowed, selection, searchQuery, Search.parse_empty]
  exact Search.select_none _

/-- At the same index the same notification is selected. -/
theorem Alike.selected (alike : first.Alike second)
    (index : first.selectedIndex = second.selectedIndex) (inside : 0 ≤ second.selectedIndex) :
    first.selected.map Notification.unfetched = second.selected.map Notification.unfetched := by
  rw [selected_eq first (index ▸ inside), selected_eq second inside, ← List.getElem?_map,
    ← List.getElem?_map, alike.visible, index]

theorem map_id_unfetched (records : List Notification) :
    (records.map Notification.unfetched).map Notification.id = records.map Notification.id := by
  rw [List.map_map]
  rfl

/-- At another index within the list another notification is selected. -/
theorem Alike.selected_ne (alike : first.Alike second)
    (distinct : (second.visible.map Notification.id).Nodup)
    (inside : 0 ≤ first.selectedIndex) (before : first.selectedIndex < second.selectedIndex)
    (bound : second.selectedIndex ≤ second.lastIndex) :
    first.selected.map Notification.id ≠ second.selected.map Notification.id := by
  have positive : 0 ≤ second.selectedIndex := by omega
  have ids : first.visible.map Notification.id = second.visible.map Notification.id := by
    rw [← map_id_unfetched, alike.visible, map_id_unfetched]
  have length : second.selectedIndex.toNat < (second.visible.map Notification.id).length := by
    rw [List.length_map]
    unfold Screen.lastIndex at bound
    omega
  have shorter : first.selectedIndex.toNat < second.selectedIndex.toNat := by omega
  rw [selected_eq first inside, selected_eq second positive, ← List.getElem?_map,
    ← List.getElem?_map, ids, List.getElem?_eq_getElem (Nat.lt_trans shorter length),
    List.getElem?_eq_getElem length]
  intro same
  have equal := (distinct.getElem_inj_iff).1 (Option.some.inj same)
  omega

end Screen

/-! ## Before and after -/

/-- The events that ask for an action. -/
def Event.IsAction : Event → Prop
  | .toggleStar => True
  | .toggleArchive => True
  | .archiveAll => True
  | .unarchiveAll => True
  | .mute => True
  | .markRead => True
  | _ => False

theorem Screen.acts_handle (screen : Screen) {event : Event} (action : event.IsAction) :
    screen.Acts (screen.handle event) := by
  cases event with
  | toggleStar => exact acts_actOnSelected screen .star
  | toggleArchive => exact acts_actOnSelected screen .archive
  | archiveAll => exact acts_actOnVisible screen .archiveAll
  | unarchiveAll => exact acts_actOnVisible screen .unarchiveAll
  | mute => exact acts_actOnSelected screen .mute
  | markRead => exact acts_markRead screen
  | _ => exact absurd action id

namespace App

/-- An application that shows what its store holds, with the cursor within the
list and nothing to look at. -/
structure Resting (app : App) : Prop where
  working : ∃ store, app.session.file = .intact store ∧ store.Sound
  clock : ∃ text, app.session.now.stored = .ok text
  quiet : app.session.completions = []
  proper : app.screen.Proper
  mirrors : app.Mirrors
  inside : 0 ≤ app.screen.selectedIndex ∧ app.screen.selectedIndex ≤ app.screen.lastIndex

/-- The store holds the same apart from the times of writing and is looked at in
the same way, with the cursor at an index. -/
structure Restored (before after : App) (index : Int) : Prop where
  working : ∃ old new, before.session.file = .intact old ∧ old.Sound ∧
    after.session.file = .intact new ∧ new.Sound ∧ new.notifications.Alike old.notifications
  view : after.screen.view = before.screen.view
  selection : after.screen.selection = before.screen.selection
  searchQuery : after.screen.searchQuery = before.screen.searchQuery
  index : after.screen.selectedIndex = index

/-- What is the same after an action was undone, and what becomes of the
cursor. -/
structure Undone (before between after : App) : Prop where
  rows : ∃ old new, before.session.file = .intact old ∧ after.session.file = .intact new ∧
    new.notifications.rows.map Row.unfetched = old.notifications.rows.map Row.unfetched
  notifications : after.screen.notifications.map Notification.unfetched =
    before.screen.notifications.map Notification.unfetched
  counts : after.screen.counts = before.screen.counts
  totals : after.screen.totals = before.screen.totals
  visible : after.screen.visible.map Notification.unfetched =
    before.screen.visible.map Notification.unfetched
  index : after.screen.selectedIndex =
    min before.screen.selectedIndex between.screen.lastIndex
  selected : before.screen.selectedIndex ≤ between.screen.lastIndex →
    after.screen.selected.map Notification.unfetched =
      before.screen.selected.map Notification.unfetched
  moved : between.screen.lastIndex < before.screen.selectedIndex →
    after.screen.selected.map Notification.id ≠ before.screen.selected.map Notification.id

variable {setup : Setup} {app before after : App} {index : Int}

theorem Resting.restored (resting : app.Resting) : app.Restored app app.screen.selectedIndex := by
  obtain ⟨store, intact, sound⟩ := resting.working
  exact ⟨⟨store, store, intact, sound, intact, sound, .refl _⟩, rfl, rfl, rfl, rfl⟩

theorem Restored.usable (restored : before.Restored after index) (resting : before.Resting) :
    after.screen.selectionFault? = none := by
  have usable := resting.proper.usable
  unfold Screen.selectionFault? at usable ⊢
  rw [restored.selection]
  exact usable

/-- If the store is shown, so is the same list as before. -/
theorem Restored.alike (restored : before.Restored after index) (resting : before.Resting)
    (mirrors : after.Mirrors) : after.screen.Alike before.screen := by
  obtain ⟨view, named⟩ := resting.proper.view
  obtain ⟨old, new, intact, sound, file, kept, alike⟩ := restored.working
  obtain ⟨earlier, _, _⟩ := (mirrors_iff intact sound named).1 resting.mirrors
  obtain ⟨later, _, _⟩ := (mirrors_iff file kept (restored.view.trans named)).1 mirrors
  refine ⟨?_, restored.selection, restored.searchQuery⟩
  rw [later, earlier]
  exact kept.shown_alike sound alike view

/-- Reading the store again shows the same list and leaves the cursor where it
is. -/
theorem Restored.reload (restored : before.Restored after index) (resting : before.Resting)
    (inside : 0 ≤ index ∧ index ≤ before.screen.lastIndex) :
    ∃ later, reload.run after = (.ok (), later) ∧ before.Restored later index ∧ later.Mirrors := by
  obtain ⟨view, named⟩ := resting.proper.view
  obtain ⟨old, new, intact, sound, file, kept, alike⟩ := restored.working
  have still := restored.view.trans named
  have mirrors : Mirrors { after with screen := after.screen.refreshed new view } :=
    mirrors_of_refreshed file kept still rfl
  have read : before.Restored { after with screen := after.screen.refreshed new view }
      (after.screen.refreshed new view).selectedIndex :=
    ⟨restored.working, restored.view, restored.selection, restored.searchQuery, rfl⟩
  -- the cursor is moved into a list that is as long as the one before the action
  have last := (read.alike resting mirrors).lastIndex
  have cursor : (after.screen.refreshed new view).selectedIndex = index := by
    change min (max after.screen.selectedIndex 0) (after.screen.refreshed new view).lastIndex = _
    rw [last, restored.index]
    omega
  refine ⟨_, run_reload file kept still (restored.usable resting), ?_, mirrors⟩
  rw [← cursor]
  exact read

theorem Restored.followPhase (setup : Setup) (restored : before.Restored after index)
    (resting : before.Resting) (mirrors : after.Mirrors) :
    ∃ later, (App.followPhase setup).run after = (.ok (), later) ∧
      before.Restored later index ∧ later.Mirrors := by
  rw [App.followPhase, Work.run_bind_ok (Work.run_get after)]
  by_cases seen : after.session.phase = after.seenPhase
  · rw [if_pos seen]
    exact ⟨after, rfl, restored, mirrors⟩
  · rw [if_neg seen, Work.run_bind_ok (Work.run_set _ after)]
    by_cases broken : after.session.phase = .error
    · rw [if_pos broken]
      exact ⟨_, rfl, { restored with }, mirrors.of_same rfl rfl⟩
    · have noticed : before.Restored { after with seenPhase := after.session.phase } index := {
        restored with }
      have shown : (App.dispatch setup (.syncProgress after.session.phase)).run
          { after with seenPhase := after.session.phase } = _ :=
        run_dispatch (noticed.usable resting) (.syncProgress after.session.phase)
      rw [if_neg broken, shown]
      exact ⟨_, rfl, { restored with },
        ⟨mirrors.notifications, mirrors.counts, mirrors.totals⟩⟩

theorem Restored.lookForChanges (restored : before.Restored after index)
    (usable : setup.probeInterval.Usable) (resting : before.Resting)
    (inside : 0 ≤ index ∧ index ≤ before.screen.lastIndex) (mirrors : after.Mirrors) :
    ∃ later, (App.lookForChanges setup).run after = (.ok (), later) ∧
      before.Restored later index ∧ later.Mirrors := by
  obtain ⟨old, new, intact, sound, file, kept, alike⟩ := restored.working
  obtain ⟨looked, run⟩ := run_lookForChanges usable file
  have calm : before.Restored
      { after with session := { after.session with lastProbe := looked } } index := {
    restored with }
  rcases run with nothing | again
  · exact ⟨_, nothing, calm, mirrors.of_same rfl rfl⟩
  · obtain ⟨later, read, same, shown⟩ := calm.reload resting inside
    exact ⟨later, again.trans read, same, shown⟩

/-- Once all outcomes are dealt with, the rest of a pump changes neither the list
nor the cursor. -/
theorem Restored.pump (restored : before.Restored after index)
    (usable : setup.probeInterval.Usable) (resting : before.Resting)
    (inside : 0 ≤ index ∧ index ≤ before.screen.lastIndex) (mirrors : after.Mirrors)
    (completed : (app.session.completions.forM (complete setup)).run app.emptied =
      (.ok (), after)) :
    ∃ later, (App.pump setup).run app = (.ok (), later) ∧ before.Restored later index ∧
      later.Mirrors := by
  obtain ⟨seen, followed, same, shown⟩ := restored.followPhase setup resting mirrors
  obtain ⟨later, looked, still, again⟩ := same.lookForChanges usable resting inside shown
  refine ⟨later, ?_, still, again⟩
  rw [run_pump completed, Work.run_bind_ok followed, looked]

/-- A pump undoes a failed action and shows the same list again. -/
theorem Restored.pump_failed (app : App) {plan : Plan} {store : Store} {text : String}
    {error : Error} (intact : app.session.file = .intact store)
    (stored : app.session.now.stored = .ok text)
    (completions : app.session.completions = [⟨Plan.taskKind, .error error, some plan⟩])
    (writable : Assignment.Writable plan.previous)
    (restored : before.Restored { app with session := { app.session with
      file := .intact (store.assigned text plan.previous) } } index)
    (usable : setup.probeInterval.Usable) (resting : before.Resting)
    (inside : 0 ≤ index ∧ index ≤ before.screen.lastIndex) :
    ∃ after, (App.pump setup).run app = (.ok (), after) ∧ before.Restored after index ∧
      after.Mirrors := by
  have run : (complete setup ⟨Plan.taskKind, .error error, some plan⟩).run app.emptied = _ :=
    run_completeAction_of_error setup app.emptied writable intact stored
      (restored.usable resting) error
  have marked : before.Restored { app.emptied with
      session := { app.emptied.session with file := .intact (store.assigned text plan.previous) }
      rollbacks := app.rollbacks + 1
      screen := { app.screen with
        error := some (plan.action.name ++ " failed: " ++ error.message) } } index := {
    restored with }
  obtain ⟨later, read, same, shown⟩ := marked.reload resting inside
  have completed : (app.session.completions.forM (complete setup)).run app.emptied =
      (.ok (), later) := by
    rw [completions, Work.run_forM_singleton, run]
    exact read
  exact same.pump usable resting inside shown completed

/-- What is the same once the store is shown again. -/
theorem Restored.undone {between : App} (restored : before.Restored after
      (min before.screen.selectedIndex between.screen.lastIndex))
    (resting : before.Resting) (mirrors : after.Mirrors) : before.Undone between after := by
  obtain ⟨view, named⟩ := resting.proper.view
  obtain ⟨old, new, intact, sound, file, kept, same⟩ := restored.working
  obtain ⟨shown, counts, totals⟩ := (mirrors_iff intact sound named).1 resting.mirrors
  obtain ⟨_, counted, divided⟩ := (mirrors_iff file kept (restored.view.trans named)).1 mirrors
  have alike := restored.alike resting mirrors
  have nonneg := between.screen.lastIndex_nonneg
  obtain ⟨low, high⟩ := resting.inside
  exact {
    rows := ⟨old, new, intact, file, same⟩
    notifications := alike.notifications
    counts := by rw [counted, counts, same.counts]
    totals := by rw [divided, totals, same.totals]
    visible := alike.visible
    index := restored.index
    selected := by
      intro within
      apply alike.selected _ low
      rw [restored.index, Int.min_eq_left within]
    moved := by
      intro beyond
      have distinct : (before.screen.visible.map Notification.id).Nodup := by
        have part := before.screen.sublist_visible.map Notification.id
        rw [shown] at part
        exact (sound.nodup_shown view).sublist part
      have index := restored.index
      rw [Int.min_eq_right (Int.le_of_lt beyond)] at index
      apply alike.selected_ne distinct _ _ high
      · rw [index]
        exact nonneg
      · rw [index]
        exact beyond }

/-- Without an action nothing changes. -/
theorem Resting.undone_nothing (resting : app.Resting) (usable : setup.probeInterval.Usable) :
    ∃ after, (App.pump setup).run app = (.ok (), after) ∧ app.Undone app after := by
  have completed : (app.session.completions.forM (complete setup)).run app.emptied =
      (.ok (), app.emptied) := by
    rw [resting.quiet]
    rfl
  have calm : app.Restored app.emptied (min app.screen.selectedIndex app.screen.lastIndex) := {
    resting.restored with
    index := (Int.min_eq_left resting.inside.2).symm }
  have inside := resting.inside
  obtain ⟨after, pumped, same, shown⟩ := calm.pump usable resting (by omega)
    (resting.mirrors.of_same rfl rfl) completed
  exact ⟨after, pumped, same.undone resting shown⟩

/-- Writing back what an action replaced restores the store. -/
theorem Resting.restored_of_assigned (resting : app.Resting) {store : Store}
    (intact : app.session.file = .intact store) (sound : store.Sound) {text : String}
    (stored : app.session.now.stored = .ok text) (action : Action) {records : List Notification}
    (rows : ∀ record ∈ records, ∃ row ∈ store.notifications.rows, record = row.read)
    (session : Session) (view : View) :
    app.Restored { app.showing session
        (store.assigned text (Plan.make action records).changes) view with
      session := { session with
        file := .intact ((store.assigned text (Plan.make action records).changes).assigned text
          (Plan.make action records).previous) } }
      (min app.screen.selectedIndex (app.showing session
        (store.assigned text (Plan.make action records).changes) view).screen.lastIndex) := by
  have written := sound.assigned stored (Plan.make action records).changes
  exact {
    working := ⟨store, _, intact, sound, rfl, written.assigned stored _,
      Plan.alike_undone sound rows action text⟩
    view := rfl
    selection := rfl
    searchQuery := rfl
    index := congrArg (min · _) (Int.max_eq_left resting.inside.1) }

/-- An action whose request failed is undone. -/
theorem Resting.undone_acted (resting : app.Resting) (usable : setup.probeInterval.Usable)
    {store : Store} (intact : app.session.file = .intact store) (sound : store.Sound)
    {text : String} (stored : app.session.now.stored = .ok text) {view : View} {action : Action}
    {records : List Notification} (known : ∀ record ∈ records, record ∈ store.shown view)
    (filled : (Plan.make action records).isEmpty = false)
    {between : App} (acted : between = app.acted setup store text view (Plan.make action records))
    (failing : ∀ completion ∈ between.session.completions, completion.ok = false) :
    ∃ after, (App.pump setup).run between = (.ok (), after) ∧ app.Undone between after := by
  obtain ⟨outcome, session, sent, same⟩ := Plan.run_submit setup filled { app.session with
    file := .intact (store.assigned text (Plan.make action records).changes) }
  rw [App.acted, sent] at acted
  subst acted
  change ∀ completion ∈ session.completions, completion.ok = false at failing
  have file := Session.file_of_offline same
  have clock := (congrArg Timestamp.stored (Session.now_of_offline same)).trans stored
  have completions := Session.completions_of_offline same
  rw [resting.quiet, List.nil_append] at completions
  rw [completions] at failing
  cases outcome with
  | ok value =>
      have failed : true = false := failing _ (List.mem_singleton_self _)
      cases failed
  | error error =>
      have fits : ∀ record ∈ records, Width.fits64 record.id = true :=
        fun record member => sound.fits_of_mem_shown (known record member)
      have rows : ∀ record ∈ records, ∃ row ∈ store.notifications.rows, record = row.read :=
        fun record member => Store.exists_row_of_mem_shown (known record member)
      have restored :=
        resting.restored_of_assigned intact sound stored action rows session view
      have inside := resting.inside
      have nonneg := (app.showing session
        (store.assigned text (Plan.make action records).changes) view).screen.lastIndex_nonneg
      obtain ⟨after, pumped, still, mirrors⟩ := Restored.pump_failed
        (app.showing session (store.assigned text (Plan.make action records).changes) view)
        file clock completions (Plan.writable_previous fits) restored usable resting (by omega)
      exact ⟨after, pumped, still.undone resting mirrors⟩

/-- Once a failed action is undone, everything is as it was before apart from the
times of writing.  The same notification is selected exactly if the action left
the list long enough for the cursor; otherwise the cursor stays where the
shortened list ended. -/
theorem failed_action_undone (resting : app.Resting) (usable : setup.probeInterval.Usable)
    {event : Event} (action : event.IsAction) :
    ∃ between, (dispatch setup event).run app = (.ok (), between) ∧
      ((∀ completion ∈ between.session.completions, completion.ok = false) →
        ∃ after, (App.pump setup).run between = (.ok (), after) ∧ app.Undone between after) := by
  obtain ⟨store, intact, sound⟩ := resting.working
  obtain ⟨text, stored⟩ := resting.clock
  obtain ⟨view, named⟩ := resting.proper.view
  obtain ⟨shown, _, _⟩ := (mirrors_iff intact sound named).1 resting.mirrors
  have acts := app.screen.acts_handle action
  rw [run_dispatch resting.proper.usable]
  generalize app.screen.handle event = answer at acts
  cases acts with
  | nothing =>
      refine ⟨app, rfl, ?_⟩
      intro _
      exact resting.undone_nothing usable
  | @act action records filled known =>
      rw [shown] at known
      obtain ⟨record, member⟩ := filled
      have full := Plan.isEmpty_make action member
      have writable : Assignment.Writable (Plan.make action records).changes :=
        Plan.writable_changes fun record member => sound.fits_of_mem_shown (known record member)
      refine ⟨_, run_act setup intact sound stored named resting.proper.usable writable full, ?_⟩
      exact resting.undone_acted usable intact sound stored known full rfl

/-! ## A cursor that moves -/

/-- The first of two notifications. -/
def firstOfTwo : Notification := { id := 1 }

/-- The second of two notifications. -/
def secondOfTwo : Notification := { id := 2 }

theorem inUtc_firstOfTwo : firstOfTwo.InUtc :=
  Notification.inUtc_of_none rfl rfl rfl Timestamp.inUtc?_none

theorem inUtc_secondOfTwo : secondOfTwo.InUtc :=
  Notification.inUtc_of_none rfl rfl rfl Timestamp.inUtc?_none

/-- A store with two notifications in the inbox. -/
def pairStore : Store where
  notifications := .ofRows [firstOfTwo.written, secondOfTwo.written]

theorem sound_pairStore : pairStore.Sound := by
  apply @Store.sound_ofRows [firstOfTwo, secondOfTwo]
  · simp [inUtc_firstOfTwo, inUtc_secondOfTwo]
  · decide

theorem shown_pairStore : pairStore.shown .inbox = [firstOfTwo, secondOfTwo] := by
  have kept : (pairStore.notifications.rows.filter fun row => View.inbox.holds row.flags) =
      [firstOfTwo.written, secondOfTwo.written] := rfl
  have sorted : [firstOfTwo.written, secondOfTwo.written].Pairwise
      fun first second => first.comesFirst second = true := by decide
  rw [Store.shown, Table.view, kept, List.mergeSort_of_pairwise sorted]
  simp [inUtc_firstOfTwo, inUtc_secondOfTwo]

/-- The second of two notifications is selected, and the service cannot archive. -/
def lastOfTwo : App where
  session := {
    file := .intact pairStore
    now := .origin
    replies := [("POST /api/notifications/archive_selected.json", [.answer 500 ""])] }
  screen := {
    notifications := pairStore.shown .inbox
    counts := pairStore.notifications.counts
    totals := pairStore.notifications.totals
    selectedIndex := 1 }

theorem visible_lastOfTwo : lastOfTwo.screen.visible = [firstOfTwo, secondOfTwo] :=
  (Screen.visible_eq rfl rfl).trans shown_pairStore

theorem selected_lastOfTwo : lastOfTwo.screen.selected = some secondOfTwo := by
  rw [Screen.selected_eq _ (by decide), visible_lastOfTwo]
  rfl

theorem resting_lastOfTwo : lastOfTwo.Resting where
  working := ⟨pairStore, rfl, sound_pairStore⟩
  clock := ⟨_, rfl⟩
  quiet := rfl
  proper := ⟨⟨.inbox, rfl⟩, rfl⟩
  mirrors := by
    have named : lastOfTwo.screen.view = View.inbox.name := rfl
    exact (mirrors_iff rfl sound_pairStore named).2 ⟨rfl, rfl, rfl⟩
  inside := by
    rw [Screen.lastIndex, visible_lastOfTwo]
    decide

/-- Archiving the second notification. -/
def archiveSecond : Plan :=
  Plan.make .archive [secondOfTwo]

theorem handle_lastOfTwo :
    lastOfTwo.screen.handle .toggleArchive = (lastOfTwo.screen,
      [.patchStore archiveSecond.changes, .reload, .callRemote archiveSecond]) := by
  change lastOfTwo.screen.actOnSelected .archive = _
  rw [Screen.actOnSelected, selected_lastOfTwo]
  rfl

/-- The application after the second notification was archived. -/
def archivedSecond : App :=
  lastOfTwo.acted .sample pairStore "0001-01-01T00:00:00+00:00" .inbox archiveSecond

theorem lastIndex_archivedSecond : archivedSecond.screen.lastIndex = 0 := by
  have shown : archivedSecond.screen.visible = archivedSecond.screen.notifications :=
    Screen.visible_eq rfl rfl
  have one : archivedSecond.screen.notifications.length = 1 := by
    change ((Store.assigned pairStore _ archiveSecond.changes).shown .inbox).length = 1
    rw [Store.shown, List.length_map, Table.view, List.length_mergeSort]
    rfl
  rw [Screen.lastIndex, shown, one]
  rfl

/-- After a failed attempt to archive the last notification another one is
selected. -/
theorem selection_moves_after_failed_archive :
    lastOfTwo.Resting ∧
      ∃ between after, (dispatch .sample .toggleArchive).run lastOfTwo = (.ok (), between) ∧
        (∀ completion ∈ between.session.completions, completion.ok = false) ∧
        (App.pump .sample).run between = (.ok (), after) ∧
          after.screen.selected.map Notification.id ≠
            lastOfTwo.screen.selected.map Notification.id := by
  have stored : lastOfTwo.session.now.stored = .ok "0001-01-01T00:00:00+00:00" := rfl
  have known : ∀ record ∈ [secondOfTwo], record ∈ pairStore.shown .inbox := by
    rw [shown_pairStore]
    decide
  have writable : Assignment.Writable archiveSecond.changes :=
    Plan.writable_changes fun record member =>
      sound_pairStore.fits_of_mem_shown (known record member)
  have run : (dispatch .sample .toggleArchive).run lastOfTwo = (.ok (), archivedSecond) := by
    rw [run_dispatch resting_lastOfTwo.proper.usable, handle_lastOfTwo]
    exact run_act .sample rfl sound_pairStore stored rfl rfl writable rfl
  have refused : (archivedSecond.session.completions.all fun completion => !completion.ok) =
      true := by decide +kernel
  have failing : ∀ completion ∈ archivedSecond.session.completions, completion.ok = false := by
    intro completion member
    simpa using List.all_eq_true.1 refused completion member
  have acted : archivedSecond = lastOfTwo.acted .sample pairStore "0001-01-01T00:00:00+00:00"
      .inbox (Plan.make .archive [secondOfTwo]) := rfl
  obtain ⟨after, pumped, undone⟩ :=
    resting_lastOfTwo.undone_acted Setup.usable_sample rfl sound_pairStore stored known rfl acted
      failing
  have beyond : archivedSecond.screen.lastIndex < lastOfTwo.screen.selectedIndex := by
    rw [lastIndex_archivedSecond]
    decide
  exact ⟨resting_lastOfTwo, archivedSecond, after, run, failing, pumped, undone.moved beyond⟩

/-- A failed attempt to archive the last notification is undone. -/
theorem failed_archive_undone :
    lastOfTwo.Resting ∧ Setup.sample.probeInterval.Usable ∧ Event.IsAction .toggleArchive ∧
      ∃ between, (dispatch .sample .toggleArchive).run lastOfTwo = (.ok (), between) ∧
        ((∀ completion ∈ between.session.completions, completion.ok = false) →
          ∃ after, (App.pump .sample).run between = (.ok (), after) ∧
            lastOfTwo.Undone between after) := by
  exact ⟨resting_lastOfTwo, Setup.usable_sample, trivial,
    failed_action_undone resting_lastOfTwo Setup.usable_sample trivial⟩

end App

end Triage
