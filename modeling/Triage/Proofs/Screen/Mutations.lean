import Triage.Proofs.Screen.Rollback

/-!
# Mutations that the screen asks for

An answer of the screen writes and sends nothing, or it ends in writing the changes of one plan,
reading the store and sending the plan, and leaves the screen as it is.  The plan is for visible
notifications in their order, sets in each of them what its request sets at the service, and
keeps the values that these flags have.
-/

namespace Triage

/-- The values that a request gives to flags of a notification at the service. -/
def Mutation.values (flags : Flags) : Mutation → FlagChanges
  | .star => [(.starred, !flags.starred)]
  | .archive => [(.archived, true)]
  | .unarchive => [(.archived, false)]
  | .mute => [(.muted, true), (.archived, true)]
  | .markRead => [(.unread, false)]

/-- Writing these values does to a notification here what the request does to it at the service. -/
theorem Mutation.assign_values (flags : Flags) (mutation : Mutation) :
    flags.assign (mutation.values flags) = mutation.effect flags := by
  cases mutation <;> rfl

namespace Plan

/-- A plan is for some notifications: it sets in each of them what its request sets at the
service, and keeps the values that the same flags have. -/
structure Fits (plan : Plan) (mutation : Mutation) (records : List Notification) : Prop where
  requested : plan.mutation = some mutation
  changes : plan.changes = records.map fun record => (record.id, mutation.values record.flags)
  previous : plan.previous = records.map fun record =>
    (record.id, (mutation.values record.flags).map fun change =>
      (change.1, record.flags.get change.1))

variable {action : Action} {records : List Notification}

/-- What an action sets in a notification is what its request sets at the service. -/
theorem changesFor_eq_values (action : Action) (record : Notification) :
    changesFor action record = (mutationFor action record).values record.flags := by
  cases action with
  | archive =>
      cases archived : record.flags.archived <;>
        simp [changesFor, mutationFor, Mutation.values, archived]
  | _ => rfl

/-- A plan for notifications with distinct numbers is for them in their order. -/
theorem exists_fits_make (single : action.isSingle = true → records.length ≤ 1)
    (filled : records ≠ []) (distinct : (records.map Notification.id).Nodup) :
    ∃ mutation, (make action records).Fits mutation records := by
  have keys (values : Notification → FlagChanges) :
      ((records.map fun record => (record.id, values record)).map Prod.fst).Nodup := by
    rwa [List.map_map]
  obtain ⟨first, known⟩ := List.exists_mem_of_ne_nil records filled
  have request := mutation_eq single known
  have every : ∀ record ∈ records,
      changesFor action record = (mutationFor action first).values record.flags := by
    intro record member
    have same := (mutation_eq single member).symm.trans request
    rw [changesFor_eq_values, Option.some.inj same]
  refine ⟨mutationFor action first, request, ?_, ?_⟩
  · rw [make, Keyed.ofList_of_nodup (keys (changesFor action))]
    exact List.map_congr_left fun record member => by rw [every record member]
  · rw [make, Keyed.ofList_of_nodup (keys (previousFor action))]
    exact List.map_congr_left fun record member => by rw [previousFor, every record member]

theorem fits_make_markRead (record : Notification) :
    (make .markRead [record]).Fits .markRead [record] :=
  ⟨rfl, rfl, rfl⟩

theorem Fits.ids_eq {plan : Plan} {mutation : Mutation} (fits : plan.Fits mutation records) :
    plan.ids = records.map Notification.id := by
  rw [ids, fits.changes, List.map_map]
  rfl

/-- What a plan keeps is of the same flags of the same notifications as what it sets. -/
theorem Fits.map_previous {plan : Plan} {mutation : Mutation} (fits : plan.Fits mutation records) :
    (plan.previous.map fun entry => (entry.1, entry.2.map Prod.fst)) =
      plan.changes.map fun entry => (entry.1, entry.2.map Prod.fst) := by
  rw [fits.previous, fits.changes, List.map_map, List.map_map]
  refine List.map_congr_left fun record _ => ?_
  simp [Function.comp_def]

/-- Writing the changes of a plan, reading the store and sending the plan. -/
def commands (plan : Plan) : List Command :=
  [.patchStore plan.changes, .reload, .callRemote plan]

end Plan

namespace Command

/-- Whether a command writes flags. -/
def isPatch : Command → Bool
  | .patchStore _ => true
  | _ => false

/-- Whether a command sends an action. -/
def isCall : Command → Bool
  | .callRemote _ => true
  | _ => false

/-- Whether a command writes flags or sends an action. -/
def mutates (command : Command) : Bool :=
  command.isPatch || command.isCall

end Command

namespace Screen

variable {screen : Screen} {event : Event} {action : Action} {records : List Notification}

/-! ## What an event asks for -/

/-- The action that an event asks for, and the notifications that it is for. -/
def request? (screen : Screen) : Event → Option (Action × List Notification)
  | .toggleStar => some (.star, screen.selected.toList)
  | .toggleArchive => some (.archive, screen.selected.toList)
  | .archiveAll => some (.archiveAll, screen.visible)
  | .unarchiveAll => some (.unarchiveAll, screen.visible)
  | .mute => some (.mute, screen.selected.toList)
  | .markRead => some (.markRead, screen.selected.toList.filter (·.flags.unread))
  | _ => none

theorem actOnSelected_eq (screen : Screen) (action : Action) :
    actOnSelected screen action = optimistic screen (Plan.make action screen.selected.toList) := by
  rw [actOnSelected]
  split
  · next record selected => rw [selected, Option.toList_some]
  · next none => simp [none, optimistic, Plan.isEmpty]

theorem markRead_eq (screen : Screen) :
    markRead screen = optimistic screen
      (Plan.make .markRead (screen.selected.toList.filter (·.flags.unread))) := by
  rw [markRead]
  split
  · next record selected =>
      split
      · next unread => simp [selected, unread]
      · next read => simp [selected, read, optimistic, Plan.isEmpty]
  · next none => simp [none, optimistic, Plan.isEmpty]

/-- An event that asks for an action is answered by planning it. -/
theorem handle_of_request? (requested : screen.request? event = some (action, records)) :
    screen.handle event = optimistic screen (Plan.make action records) := by
  cases event with
  | toggleStar | toggleArchive | mute =>
      cases requested
      exact actOnSelected_eq screen _
  | archiveAll | unarchiveAll =>
      cases requested
      rfl
  | markRead =>
      cases requested
      exact markRead_eq screen
  | _ => cases requested

/-- Actions are for visible notifications in their order. -/
theorem sublist_of_request? (requested : screen.request? event = some (action, records)) :
    records.Sublist screen.visible := by
  have selected : screen.selected.toList.Sublist screen.visible := by
    cases same : screen.selected with
    | none => exact List.nil_sublist _
    | some record => exact List.singleton_sublist.2 (mem_visible_of_selected same)
  cases event with
  | toggleStar | toggleArchive | mute =>
      cases requested
      exact selected
  | archiveAll | unarchiveAll =>
      cases requested
      exact List.Sublist.refl _
  | markRead =>
      cases requested
      exact List.filter_sublist.trans selected
  | _ => cases requested

/-- An action that takes one notification is for the selected one at most. -/
theorem length_le_of_request? (requested : screen.request? event = some (action, records))
    (single : action.isSingle = true) : records.length ≤ 1 := by
  cases event with
  | toggleStar | toggleArchive =>
      cases requested
      exact Option.length_toList_le
  | archiveAll | unarchiveAll | mute | markRead =>
      cases requested
      cases single
  | _ => cases requested

/-! ## Answers without mutations -/

theorem idle_selectItem (screen : Screen) (item : SidebarItem) :
    (selectItem screen item).2.filter Command.mutates = [] := by
  cases item <;> rfl

/-- Other events, apart from opening a page, ask for no mutation. -/
theorem idle_handle (other : screen.request? event = none) (stays : event ≠ .openLink) :
    (screen.handle event).2.filter Command.mutates = [] := by
  cases event with
  | move delta =>
      simp only [handle, move]
      split <;> rfl
  | selectId id =>
      simp only [handle, selectId]
      split <;> rfl
  | enterSearch =>
      simp only [handle, enterSearch]
      split <;> rfl
  | searchBackspace =>
      simp only [handle, searchBackspace]
      split <;> rfl
  | moveSidebar delta =>
      simp only [handle, moveSidebar]
      split <;> rfl
  | loaded view notifications counts totals =>
      simp only [handle, loaded]
      split <;> rfl
  | escape =>
      simp only [handle, escape, exitSearch, quiet]
      split_ifs <;> rfl
  | activateSidebar =>
      simp only [handle, activateSidebar]
      split
      · exact idle_selectItem screen _
      · rfl
  | selectItem item => exact idle_selectItem screen item
  | toggleStar | toggleArchive | archiveAll | unarchiveAll | mute | markRead => cases other
  | openLink => exact absurd rfl stays
  | _ => rfl

/-! ## Answers with mutations -/

/-- An answer writes and sends nothing, or it leaves the screen as it is and ends in carrying out
a plan for visible notifications. -/
inductive Carries (screen : Screen) (answer : Answer) : Prop where
  | nothing (idle : answer.2.filter Command.mutates = [])
  | plan {front : List Command} {plan : Plan} {mutation : Mutation} {records : List Notification}
      (same : answer = (screen, front ++ plan.commands))
      (idle : front.filter Command.mutates = [])
      (filled : records ≠ [])
      (visible : records.Sublist screen.visible)
      (fits : plan.Fits mutation records)

/-- What opening the page of the selected notification comes to: nothing without an address,
else the address first, and marking the notification as read if it is not. -/
inductive Opens (screen : Screen) : Answer → Prop where
  | nothing (closed : ∀ record url, screen.selected = some record → record.webUrl = some url →
      url = "") : Opens screen (screen, [])
  | read {record : Notification} {url : String} (selected : screen.selected = some record)
      (address : record.webUrl = some url) (given : url ≠ "")
      (read : record.flags.unread = false) : Opens screen (screen, [.openUrl url])
  | unread {record : Notification} {url : String} {plan : Plan}
      (selected : screen.selected = some record) (address : record.webUrl = some url)
      (given : url ≠ "") (unread : record.flags.unread = true)
      (fits : plan.Fits .markRead [record]) : Opens screen (screen, .openUrl url :: plan.commands)

theorem optimistic_make (filled : records ≠ []) :
    optimistic screen (Plan.make action records) =
      (screen, (Plan.make action records).commands) := by
  obtain ⟨record, member⟩ := List.exists_mem_of_ne_nil records filled
  rw [optimistic, Plan.isEmpty_make action member]
  rfl

/-- A planned action is carried out. -/
theorem carries_optimistic (visible : records.Sublist screen.visible)
    (single : action.isSingle = true → records.length ≤ 1)
    (distinct : (records.map Notification.id).Nodup) :
    screen.Carries (optimistic screen (Plan.make action records)) := by
  by_cases empty : records = []
  · subst empty
    exact .nothing rfl
  · obtain ⟨mutation, fits⟩ := Plan.exists_fits_make single empty distinct
    exact @Carries.plan _ _ [] _ _ _ (optimistic_make empty) rfl empty visible fits

theorem opens_openLink (screen : Screen) : screen.Opens (openLink screen) := by
  rw [openLink]
  cases found : screen.selected.bind (·.webUrl) with
  | none =>
      refine .nothing fun record url selected address => ?_
      rw [selected, Option.bind_some, address] at found
      cases found
  | some url =>
      obtain ⟨record, selected, address⟩ := Option.bind_eq_some_iff.1 found
      by_cases given : url = ""
      · simp only [String.isEmpty_iff, given, if_true]
        refine .nothing fun other url same equal => ?_
        cases selected.symm.trans same
        exact Option.some.inj (equal.symm.trans (given ▸ address))
      · simp only [String.isEmpty_iff, given, if_false, markRead, selected]
        cases unread : record.flags.unread with
        | false => exact .read selected address given unread
        | true =>
            rw [if_pos rfl, optimistic_make (List.cons_ne_nil record [])]
            exact .unread selected address given unread (Plan.fits_make_markRead record)

theorem Opens.carries {answer : Answer} (opens : screen.Opens answer) : screen.Carries answer := by
  cases opens with
  | nothing => exact .nothing rfl
  | read => exact .nothing rfl
  | @unread record url plan selected _ _ _ fits =>
      have visible := List.singleton_sublist.2 (mem_visible_of_selected selected)
      exact @Carries.plan _ _ [.openUrl url] _ _ _ rfl rfl (List.cons_ne_nil _ _) visible fits

theorem distinct_visible (distinct : (screen.notifications.map Notification.id).Nodup) :
    (screen.visible.map Notification.id).Nodup :=
  distinct.sublist (screen.sublist_visible.map Notification.id)

/-- Every answer writes and sends nothing or carries out one plan. -/
theorem carries_handle (distinct : (screen.notifications.map Notification.id).Nodup)
    (event : Event) : screen.Carries (screen.handle event) := by
  cases requested : screen.request? event with
  | some request =>
      obtain ⟨action, records⟩ := request
      have visible := sublist_of_request? requested
      rw [handle_of_request? requested]
      exact carries_optimistic visible (length_le_of_request? requested)
        ((distinct_visible distinct).sublist (visible.map Notification.id))
  | none =>
      by_cases opening : event = .openLink
      · subst opening
        exact (opens_openLink screen).carries
      · exact .nothing (idle_handle requested opening)

/-- Without a command that writes or sends there are none of either kind. -/
theorem countP_of_idle {commands : List Command} (idle : commands.filter Command.mutates = []) :
    commands.countP Command.isPatch = 0 ∧ commands.countP Command.isCall = 0 := by
  simp only [List.filter_eq_nil_iff, Command.mutates, Bool.or_eq_true, not_or] at idle
  exact ⟨List.countP_eq_zero.2 fun command member => (idle command member).1,
    List.countP_eq_zero.2 fun command member => (idle command member).2⟩

/-- An answer that carries out a plan writes and sends once each, any other does neither. -/
theorem Carries.countP {answer : Answer} (carries : screen.Carries answer) :
    answer.2.countP Command.isPatch ≤ 1 ∧
      answer.2.countP Command.isPatch = answer.2.countP Command.isCall := by
  cases carries with
  | nothing idle =>
      obtain ⟨patches, calls⟩ := countP_of_idle idle
      exact ⟨patches ▸ Nat.zero_le 1, patches.trans calls.symm⟩
  | @plan front plan _ _ same idle =>
      obtain ⟨patches, calls⟩ := countP_of_idle idle
      have written : plan.commands.countP Command.isPatch = 1 := rfl
      have sent : plan.commands.countP Command.isCall = 1 := rfl
      rw [same, List.countP_append, List.countP_append, patches, calls, written, sent]
      exact ⟨Nat.le_refl 1, rfl⟩

theorem handle_of_respond {answer : Answer} (answered : screen.respond event = .ok answer) :
    screen.handle event = answer := by
  rw [respond] at answered
  split at answered
  · split at answered
    · cases answered
    · exact Except.ok.inj answered
  · exact Except.ok.inj answered

/-- With distinct notifications, an answer writes flags at most once, and exactly if it sends an
action.  It then leaves the screen as it is and ends in writing the changes of a plan, reading the
store and sending this plan.  The plan is for visible notifications in their order, each of them
once: it sets in each what its request sets at the service, and keeps the values that the same
flags have.  An event that asks for an action on some notifications is answered by its plan.
Opening a page asks for it first, and marks only an unread notification as read. -/
theorem mutations_wellFormed {screen : Screen}
    (distinct : (screen.notifications.map Notification.id).Nodup) (event : Event) :
    (screen.selectionFault? = none → ∃ answer, screen.respond event = .ok answer) ∧
    ∀ answer, screen.respond event = .ok answer →
      answer.2.countP Command.isPatch ≤ 1 ∧
      answer.2.countP Command.isPatch = answer.2.countP Command.isCall ∧
      (answer.2.countP Command.isPatch = 1 → ∃ front plan mutation records,
        answer = (screen, front ++ [.patchStore plan.changes, .reload, .callRemote plan]) ∧
        records ≠ [] ∧ records.Sublist screen.visible ∧
        plan.ids = records.map Notification.id ∧ plan.ids.Nodup ∧
        (plan.previous.map fun entry => (entry.1, entry.2.map Prod.fst)) =
          (plan.changes.map fun entry => (entry.1, entry.2.map Prod.fst)) ∧
        plan.Fits mutation records) ∧
      (∀ action records, screen.request? event = some (action, records) → records ≠ [] →
        answer = (screen, (Plan.make action records).commands)) ∧
      (event = .openLink → screen.Opens answer) := by
  refine ⟨fun usable => ⟨_, respond_eq_handle usable event⟩, fun answer answered => ?_⟩
  obtain rfl := handle_of_respond answered
  have carries := carries_handle distinct event
  refine ⟨carries.countP.1, carries.countP.2, fun once => ?_,
    fun action records requested filled => ?_, fun opening => ?_⟩
  · cases carries with
    | nothing idle =>
        rw [(countP_of_idle idle).1] at once
        cases once
    | @plan front plan mutation records same idle filled visible fits =>
        have unrepeated := (distinct_visible distinct).sublist (visible.map Notification.id)
        exact ⟨front, plan, mutation, records, same, filled, visible, fits.ids_eq,
          fits.ids_eq ▸ unrepeated, fits.map_previous, fits⟩
  · rw [handle_of_request? requested, optimistic_make filled]
  · rw [opening]
    exact opens_openLink screen

/-- An unread notification with an address. -/
def unreadPage : Notification :=
  { id := 1, flags := { unread := true }, webUrl := some "https://github.com/" }

/-- Two notifications, of which the unread one is selected. -/
def overUnread : Screen :=
  { notifications := [unreadPage, { id := 2 }] }

/-- Opening the page of an unread notification asks for it first and ends in marking this
notification as read. -/
theorem openLink_wellFormed :
    let plan := Plan.make .markRead [unreadPage]
    let answer := (overUnread, .openUrl "https://github.com/" :: plan.commands)
    (overUnread.notifications.map Notification.id).Nodup ∧
      overUnread.selectionFault? = none ∧ overUnread.respond .openLink = .ok answer ∧
      answer.2.countP Command.isPatch = 1 ∧
      (∃ front plan mutation records,
        answer = (overUnread, front ++ [.patchStore plan.changes, .reload, .callRemote plan]) ∧
        records ≠ [] ∧ records.Sublist overUnread.visible ∧
        plan.ids = records.map Notification.id ∧ plan.ids.Nodup ∧
        (plan.previous.map fun entry => (entry.1, entry.2.map Prod.fst)) =
          (plan.changes.map fun entry => (entry.1, entry.2.map Prod.fst)) ∧
        plan.Fits mutation records) ∧
      overUnread.Opens answer := by
  intro plan answer
  have distinct : (overUnread.notifications.map Notification.id).Nodup := by decide
  have selected : overUnread.selected = some unreadPage := by
    rw [selected_eq _ (by decide), visible_eq rfl rfl]
    rfl
  have answered : overUnread.respond .openLink = .ok answer := by
    rw [respond_eq_handle rfl, handle, openLink, markRead, selected]
    rfl
  obtain ⟨_, _, carried, _, opens⟩ := (mutations_wellFormed distinct .openLink).2 answer answered
  exact ⟨distinct, rfl, answered, rfl, carried rfl, opens rfl⟩

end Screen

end Triage
