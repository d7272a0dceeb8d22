import Mathlib.Data.List.Find
import Triage.Console.Run
import Triage.Proofs.Console.Machine
import Triage.Proofs.Screen.CarryOut

/-!
# Changes from the command line

A command that changes notifications shows a view in an application of its own, finds
what it is to change, and carries out one plan.  It either changes exactly these
notifications with one request that was granted, or nothing.
-/

namespace Triage

/-! ## Finding one notification -/

namespace Table

/-- The view of everything has the row of each number. -/
theorem find?_view_all (table : Table) (id : Int) :
    ((table.view .all).find? fun row => row.id == id) = table.get? id := by
  have everything : (table.view .all).Perm table.rows := by
    have kept : (table.rows.filter fun row => View.all.holds row.flags) = table.rows :=
      List.filter_eq_self.2 fun _ _ => rfl
    rw [view, kept]
    exact List.mergeSort_perm _ _
  refine List.find?_eq_find?_of_perm everything ?_
  rintro first ⟨one, meant⟩ second ⟨two, alike⟩
  exact eq_of_id_eq (everything.mem_iff.1 one) (everything.mem_iff.1 two)
    ((beq_iff_eq.1 meant).trans (beq_iff_eq.1 alike).symm)

end Table

namespace Store

variable {store : Store} {id : Int} {record : Notification}

/-- The notification of a number, if the store holds one. -/
def notification? (store : Store) (id : Int) : Option Notification :=
  (store.notifications.get? id).map Row.read

theorem exists_row_of_notification? (found : store.notification? id = some record) :
    ∃ row ∈ store.notifications.rows, record = row.read := by
  obtain ⟨row, there, rfl⟩ := Option.map_eq_some_iff.1 found
  exact ⟨row, List.mem_of_find?_eq_some there, rfl⟩

/-- The view of everything shows the notification of each number. -/
theorem Sound.find?_shown (sound : store.Sound) (id : Int) :
    ((store.shown .all).find? fun record => record.id == id) = store.notification? id := by
  rw [shown, List.find?_map, notification?, ← Table.find?_view_all]
  congr 1
  refine List.find?_congr fun row member => ?_
  rw [Function.comp_apply, (sound.notifications.of_mem_view member).id_read]

end Store

namespace Screen

variable (screen : Screen) (id : Int)

theorem commands_selectId : (screen.selectId id).2 = [] := by
  rw [selectId]
  split <;> rfl

theorem view_selectId : (screen.selectId id).1.view = screen.view := by
  rw [selectId]
  split <;> rfl

theorem selectionFault?_selectId :
    (screen.selectId id).1.selectionFault? = screen.selectionFault? := by
  rw [selectId]
  split <;> rfl

/-- Wherever the cursor was, the notification of a number is selected exactly if it is
visible. -/
theorem selected_selectId :
    (screen.selectId id).1.selected.filter (fun record => record.id == id) =
      screen.visible.find? fun record => record.id == id := by
  rw [selectId, List.find?_eq_bind_findIdx?_getElem?]
  split
  · next index found =>
      have selected : (quiet { screen with selectedIndex := index }).1.selected =
          screen.visible[index]? :=
        selected_eq { screen with selectedIndex := index } (Int.natCast_nonneg index)
      obtain ⟨inside, meant, _⟩ := List.findIdx?_eq_some_iff_getElem.1 found
      rw [selected, found, Option.bind_some, List.getElem?_eq_getElem inside]
      exact Option.filter_some_pos meant
  · next absent =>
      rw [absent, Option.bind_none]
      cases chosen : (quiet screen).1.selected with
      | none => rfl
      | some record =>
          have other := List.findIdx?_eq_none_iff.1 absent record (mem_visible_of_selected chosen)
          exact Option.filter_some_neg (by simp [other])

end Screen

namespace App

variable {setup : Setup} {session : Session} {store : Store} {view : View}

/-- An application of its own that shows a view. -/
def viewing (session : Session) (store : Store) (view : View) : App where
  session := session
  screen := Screen.refreshed { view := view.name } store view

theorem run_switchView (setup : Setup) (intact : session.file = .intact store)
    (sound : store.Sound) (view : View) :
    (dispatch setup (.switchView view.name)).run { session := session } =
      (.ok (), viewing session store view) := by
  rw [run_dispatch rfl]
  change (List.forM [Command.reload] (execute setup)).run
    { session := session, screen := { view := view.name } } = _
  rw [Work.run_forM_singleton]
  exact run_reload intact sound rfl rfl

theorem ready_viewing (intact : session.file = .intact store) (sound : store.Sound)
    (quiet : session.completions = []) (idle : session.phase = .idle) (view : View) :
    (viewing session store view).Ready store view :=
  ⟨intact, sound, rfl, rfl, quiet, idle⟩

theorem visible_viewing (session : Session) (store : Store) (view : View) :
    (viewing session store view).screen.visible = store.shown view :=
  Screen.visible_eq rfl rfl

/-- The application once a search text was typed. -/
def searching (session : Session) (store : Store) (view : View) (query : String) : App :=
  let app := viewing session store view
  { app with screen := { app.screen with searchQuery := query, selectedIndex := 0 } }

theorem run_searchInput (setup : Setup) (session : Session) (store : Store) (view : View)
    (query : String) :
    (dispatch setup (.searchInput query)).run (viewing session store view) =
      (.ok (), searching session store view query) := by
  rw [run_dispatch rfl]
  change (Except.ok (), searching session store view ("" ++ query)) = _
  rw [String.empty_append]

theorem visible_searching (session : Session) (store : Store) (view : View) (query : String) :
    (searching session store view query).screen.visible =
      Search.search query (store.shown view) := rfl

theorem Ready.of_screen {app : App} (ready : app.Ready store view) {screen : Screen}
    (named : screen.view = app.screen.view)
    (fault : screen.selectionFault? = app.screen.selectionFault?) :
    App.Ready { app with screen := screen } store view :=
  { ready with
    named := named.trans ready.named
    usable := fault.trans ready.usable }

end App

namespace Console

/-! ## Waiting for a plan -/

/-- What is said of a plan that was waited for. -/
def verdict (name text : String) (app : App) : Notice :=
  if app.rollbacks = 0 then .done text
  else .refused ("Rolled back " ++ name ++ ": " ++ app.screen.error.getD "")

theorem settle_eq (setup : Setup) (name text : String) :
    settle setup name text = App.pump setup >>= fun _ => do
      return verdict name text (← get) := by
  rw [settle]
  congr
  funext _
  congr
  funext app
  rw [verdict]
  split <;> rfl

/-- How the work of a command that changes notifications may end. -/
inductive Settled (session : Session) (client : Client) (store : Store) (mutation : Mutation)
    (targets : List Notification) (text : String) : Except Error Notice × App → Prop where
  | failed {error : Error} {after : App} (file : after.session.file = .intact store) :
      Settled session client store mutation targets text (.error error, after)
  | refused {said : String} {after : App} {final : Store}
      (file : after.session.file = .intact final) (untouched : store.Untouched final) :
      Settled session client store mutation targets text (.ok (.refused said), after)
  /-- All is as it should be already. -/
  | idle {said : String} {after : App} (file : after.session.file = .intact store)
      (exchanges : after.session.exchanges = session.exchanges)
      (already : ∀ record ∈ targets, mutation.effect record.flags = record.flags) :
      Settled session client store mutation targets text (.ok (.done said), after)
  /-- The change was made and granted. -/
  | done {after : App} {final : Store} {call : Client.Call} {sent : Wire}
      (file : after.session.file = .intact final) (filled : targets ≠ [])
      (changed : store.Changed targets mutation final)
      (one : Client.mutationCalls mutation (targets.map Notification.id) = [call])
      (granted : client.Granted call ⟨session.replies, []⟩ sent)
      (exchanges : after.session.exchanges =
        session.exchanges ++ sent.sent.map fun request => (request, session.phase)) :
      Settled session client store mutation targets text (.ok (.done text), after)

section Settle

variable {setup : Setup} {app : App} {store : Store} {view : View} {event : Event}
  {action : Action} {records : List Notification} {mutation : Mutation}

/-- Only a single action asks for a star. -/
theorem isSingle_of_star (asks : (Plan.make action records).mutation = some mutation)
    (star : mutation = .star) : action.isSingle = true := by
  obtain ⟨record, _, meant⟩ := Option.map_eq_some_iff.1 asks
  subst star
  cases action with
  | star | archive => rfl
  | archiveAll | unarchiveAll | mute | markRead => cases meant

/-- An event that is answered by a plan is settled one way or the other. -/
theorem settled_of_answer (ready : app.Ready store view) (usable : setup.probeInterval.Usable)
    (fresh : app.rollbacks = 0)
    (answers : app.screen.handle event = (app.screen,
      [.patchStore (Plan.make action records).changes, .reload,
        .callRemote (Plan.make action records)]))
    (known : ∀ record ∈ records, ∃ row ∈ store.notifications.rows, record = row.read)
    (filled : records ≠ []) (single : action.isSingle = true → records.length ≤ 1)
    (distinct : (records.map Notification.id).Nodup)
    (asks : (Plan.make action records).mutation = some mutation) (name text : String) :
    Settled app.session setup.client store mutation records text
      ((App.dispatch setup event >>= fun _ => settle setup name text).run app) := by
  have carried := ready.carried usable known filled single
  have same : (App.dispatch setup event >>= fun _ => settle setup name text).run app =
      (App.carryOut setup (Plan.make action records) >>= fun _ => do
        return verdict name text (← get)).run app := by
    rw [settle_eq, App.carryOut, bind_assoc, Work.run_bind, App.run_dispatch ready.usable,
      answers, Work.run_bind]
  rw [same, Work.run_bind]
  cases ended : (App.carryOut setup (Plan.make action records)).run app with
  | mk outcome after =>
      rw [ended] at carried
      cases carried with
      | failed file => exact .failed file
      | undone stored file rolled =>
          have refused : verdict name text after = .refused _ := if_neg (by omega)
          change Settled _ _ _ _ _ _ (.ok (verdict name text after), after)
          rw [refused]
          exact .refused file (Plan.untouched_undone ready.sound known action _)
      | done stored file rolled asked granted exchanges =>
          have done : verdict name text after = .done text := if_pos (rolled.trans fresh)
          change Settled _ _ _ _ _ _ (.ok (verdict name text after), after)
          rw [asks] at asked
          cases asked
          rw [Plan.ids_make action distinct] at granted
          have alone (star : mutation = .star) : (records.map Notification.id).length = 1 := by
            rw [List.length_map]
            exact Nat.le_antisymm (single (isSingle_of_star asks star))
              (List.length_pos_iff.2 filled)
          obtain ⟨call, one⟩ := Client.exists_mutationCalls_eq alone
          rw [done]
          exact .done file filled (Plan.changed_assigned ready.sound known single asks _) one
            (Client.granted_of_mutate one granted) exchanges

end Settle

/-! ## One notification -/

namespace Change

/-- The action by which a change is made. -/
def action : Change → Action
  | .star => .star
  | .archive => .archive
  | .unarchive => .archive
  | .mute => .mute
  | .read => .markRead

/-- What a change does to the flags of a notification. -/
def mutation : Change → Mutation
  | .star => .star
  | .archive => .archive
  | .unarchive => .unarchive
  | .mute => .mute
  | .read => .markRead

variable {change : Change} {record : Notification}

/-- A notification that a change has nothing to do to is as the change would leave it. -/
theorem already_of_event {text : String} (nothing : change.event record = .error text) :
    change.mutation.effect record.flags = record.flags := by
  cases change with
  | star | mute => cases nothing
  | archive =>
      rw [event] at nothing
      split at nothing
      · next archived =>
          change { record.flags with archived := true } = record.flags
          rw [← archived]
      · cases nothing
  | unarchive =>
      rw [event] at nothing
      split at nothing
      · cases nothing
      · next inside =>
          change { record.flags with archived := false } = record.flags
          rw [← Bool.eq_false_iff.2 inside]
  | read =>
      rw [event] at nothing
      split at nothing
      · cases nothing
      · next read =>
          change { record.flags with unread := false } = record.flags
          rw [← Bool.eq_false_iff.2 read]

theorem mutation_of_event {event : Event} (chosen : change.event record = .ok event) :
    (Plan.make change.action [record]).mutation = some change.mutation := by
  cases change with
  | star | mute | read => rfl
  | archive =>
      rw [Change.event] at chosen
      split at chosen
      · cases chosen
      · next inside => simp [action, mutation, Plan.mutationFor, inside]
  | unarchive =>
      rw [Change.event] at chosen
      split at chosen
      · next archived => simp [action, mutation, Plan.mutationFor, archived]
      · cases chosen

/-- The event of a change makes the screen carry out the plan of its action. -/
theorem handle_event {event : Event} (chosen : change.event record = .ok event)
    {screen : Screen} (selected : screen.selected = some record) :
    screen.handle event = (screen, [.patchStore (Plan.make change.action [record]).changes,
      .reload, .callRemote (Plan.make change.action [record])]) := by
  have acted (action : Action) : screen.actOnSelected action =
      (screen, [.patchStore (Plan.make action [record]).changes, .reload,
        .callRemote (Plan.make action [record])]) := by
    rw [Screen.actOnSelected, selected]
    rfl
  cases change with
  | star | mute =>
      cases chosen
      exact acted _
  | archive =>
      rw [Change.event] at chosen
      split at chosen
      · cases chosen
      · cases chosen
        exact acted _
  | unarchive =>
      rw [Change.event] at chosen
      split at chosen
      · cases chosen
        exact acted _
      · cases chosen
  | read =>
      rw [Change.event] at chosen
      split at chosen
      · next unread =>
          cases chosen
          change screen.markRead = _
          rw [Screen.markRead, selected]
          exact (if_pos unread).trans rfl
      · cases chosen

end Change

section Work

variable {setup : Setup} {session : Session} {store : Store}

theorem settled_applyChange (setup : Setup) (usable : setup.probeInterval.Usable)
    (intact : session.file = .intact store) (sound : store.Sound)
    (quiet : session.completions = []) (idle : session.phase = .idle) (change : Change)
    (id : Int) :
    Settled session setup.client store change.mutation (store.notification? id).toList
      (change.title ++ ": " ++ toString id)
      ((applyChange setup change id).run { session := session }) := by
  have viewed := App.ready_viewing intact sound quiet idle .all
  generalize shows : App.viewing session store .all = app at viewed
  have found := app.screen.selected_selectId id
  have ready := viewed.of_screen (app.screen.view_selectId id)
    (app.screen.selectionFault?_selectId id)
  have chosen : (App.dispatch setup (.selectId id)).run app =
      (.ok (), { app with screen := (app.screen.selectId id).1 }) := by
    rw [App.run_dispatch viewed.usable]
    change (List.forM (app.screen.selectId id).2 (App.execute setup)).run _ = _
    rw [Screen.commands_selectId]
    rfl
  rw [← shows, App.visible_viewing, sound.find?_shown, shows] at found
  generalize (app.screen.selectId id).1 = screen at found ready chosen
  rw [applyChange, Work.run_bind_ok (App.run_switchView setup intact sound .all), shows,
    Work.run_bind_ok chosen, Work.run_bind_ok (Work.run_get _)]
  have begun : app.session = session := shows ▸ rfl
  have fresh : app.rollbacks = 0 := shows ▸ rfl
  simp only [found]
  cases known : store.notification? id with
  | none =>
      exact .refused ready.intact store.untouched_refl
  | some record =>
      rw [known] at found
      have selected : screen.selected = some record := (Option.filter_eq_some_iff.1 found).1
      have held : ∃ row ∈ store.notifications.rows, record = row.read :=
        Store.exists_row_of_notification? known
      simp only [Option.toList_some]
      cases event : change.event record with
      | error text =>
          refine .idle ready.intact (congrArg Session.exchanges begun) ?_
          simpa using Change.already_of_event event
      | ok chosen =>
          rw [← begun]
          exact settled_of_answer ready usable fresh (Change.handle_event event selected)
            (by simpa using held) (List.cons_ne_nil _ _) (fun _ => Nat.le_refl 1)
            (List.nodup_singleton _) (Change.mutation_of_event event) _ _

end Work

/-! ## Every notification that a query finds -/

namespace Sweep

/-- The action by which a sweep is made. -/
def action : Sweep → Action
  | .archiveAll => .archiveAll
  | .unarchiveAll => .unarchiveAll

/-- What a sweep does to the flags of each notification. -/
def mutation : Sweep → Mutation
  | .archiveAll => .archive
  | .unarchiveAll => .unarchive

variable (sweep : Sweep)

theorem isSingle_action : sweep.action.isSingle = false := by
  cases sweep <;> rfl

theorem mutationFor_action (record : Notification) :
    Plan.mutationFor sweep.action record = sweep.mutation := by
  cases sweep <;> rfl

theorem mutation_make {records : List Notification} (filled : records ≠ []) :
    (Plan.make sweep.action records).mutation = some sweep.mutation := by
  obtain ⟨record, member⟩ := List.exists_mem_of_ne_nil records filled
  rw [Plan.mutation_eq (by simp [isSingle_action]) member, mutationFor_action]

/-- The event of a sweep makes the screen carry out one plan for all that is visible. -/
theorem handle_event {screen : Screen} (filled : screen.visible ≠ []) :
    screen.handle sweep.event = (screen,
      [.patchStore (Plan.make sweep.action screen.visible).changes, .reload,
        .callRemote (Plan.make sweep.action screen.visible)]) := by
  obtain ⟨record, member⟩ := List.exists_mem_of_ne_nil screen.visible filled
  have asked : screen.handle sweep.event = screen.actOnVisible sweep.action := by
    cases sweep <;> rfl
  rw [asked, Screen.actOnVisible, Screen.optimistic, Plan.isEmpty_make _ member]
  rfl

end Sweep

section Work

variable {setup : Setup} {session : Session} {store : Store}

/-- The number of notifications that a sweep was made of. -/
def Sweep.report (sweep : Sweep) (count : Nat) : String :=
  sweep.participle ++ " " ++ toString count ++ " notification(s)"

theorem settled_applySweep (setup : Setup) (usable : setup.probeInterval.Usable)
    (intact : session.file = .intact store) (sound : store.Sound)
    (quiet : session.completions = []) (idle : session.phase = .idle) (sweep : Sweep)
    (query : String) :
    Settled session setup.client store sweep.mutation
      (Search.search query (store.shown sweep.view))
      (sweep.report (Search.search query (store.shown sweep.view)).length)
      ((applySweep setup sweep query).run { session := session }) := by
  have ready : (App.searching session store sweep.view query).Ready store sweep.view :=
    (App.ready_viewing intact sound quiet idle sweep.view).of_screen rfl rfl
  have visible := App.visible_searching session store sweep.view query
  have known : ∀ record ∈ Search.search query (store.shown sweep.view),
      ∃ row ∈ store.notifications.rows, record = row.read := fun record member =>
    Store.exists_row_of_mem_shown (List.mem_of_mem_filter member)
  have distinct : ((Search.search query (store.shown sweep.view)).map Notification.id).Nodup :=
    (sound.nodup_shown sweep.view).sublist (List.filter_sublist.map _)
  rw [applySweep, Work.run_bind_ok (App.run_switchView setup intact sound sweep.view),
    Work.run_bind_ok (App.run_searchInput setup session store sweep.view query),
    Work.run_bind_ok (Work.run_get _)]
  simp only [visible]
  generalize Search.search query (store.shown sweep.view) = targets at visible known distinct ⊢
  cases targets with
  | nil => exact .idle ready.intact rfl (by simp)
  | cons record rest =>
      have filled : record :: rest ≠ [] := List.cons_ne_nil _ _
      have answers := sweep.handle_event (visible ▸ filled)
      rw [visible] at answers
      exact settled_of_answer ready usable rfl answers known filled
        (by simp [sweep.isSingle_action]) distinct (sweep.mutation_make filled) _ _

end Work

end Console

end Triage
