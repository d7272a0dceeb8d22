import Mathlib.Logic.Relation
import Triage.Proofs.Action.Apart
import Triage.Proofs.Action.World

/-!
# Independent plans

Several plans may be under way at once, planned, performed and settled in any
order.  If no two of them set the same flag of the same notification, then in the
end exactly those that succeeded are in force, as if the others had never been
performed.
-/

namespace Triage

/-! ## Plans under way -/

/-- A session, and what became of the plans that were made in it. -/
structure Desk where
  session : Session
  planned : List Plan := []
  /-- The plans that are not performed yet. -/
  todo : List Plan := []
  /-- The outcomes that were dealt with, and the answers. -/
  settled : List (TaskCompletion × Except Error Bool) := []

namespace Desk

/-- The stored rows; there are none in a file that holds no store. -/
def rows (desk : Desk) : List Row :=
  match desk.session.file with
  | .intact store => store.notifications.rows
  | _ => []

/-- The plans whose outcomes wait. -/
def underWay (desk : Desk) : List Plan :=
  desk.session.completions.filterMap (·.context)

/-- The plans whose outcomes were dealt with. -/
def concluded (desk : Desk) : List Plan :=
  desk.settled.filterMap (·.1.context)

/-- The plans whose outcomes were dealt with and which succeeded. -/
def succeeded (desk : Desk) : List Plan :=
  (desk.settled.filter (·.1.ok)).filterMap (·.1.context)

/-- The plans that the store shows. -/
def inForce (desk : Desk) : List Plan :=
  desk.underWay ++ desk.succeeded

/-- A plan is made. -/
def plan (desk : Desk) (plan : Plan) : Desk :=
  { desk with planned := desk.planned ++ [plan], todo := desk.todo ++ [plan] }

/-- A plan is performed; some remain. -/
def perform (setup : Setup) (desk : Desk) (plan : Plan) (todo : List Plan) : Desk :=
  { desk with session := ((Plan.perform setup plan).run desk.session).2, todo := todo }

/-- An outcome is dealt with; some remain. -/
def settle (desk : Desk) (completion : TaskCompletion) (rest : List TaskCompletion) : Desk :=
  let done := (Plan.settle completion).run { desk.session with completions := rest }
  { desk with session := done.2, settled := desk.settled ++ [(completion, done.1)] }

/-- The clocks go on. -/
def pass (desk : Desk) (now : Timestamp) (seconds : Binary64) : Desk :=
  { desk with session := ((Session.pass now seconds).run desk.session).2 }

/-- Plans are made for notifications as they are stored at the time.  They are
performed and settled in any order. -/
inductive Step (setup : Setup) : Desk → Desk → Prop where
  | plan {desk : Desk} {action : Action} {records : List Notification} {plan : Plan} :
      (∀ record ∈ records, ∃ row ∈ desk.rows, Notification.ofRow row = .ok record) →
      Plan.ofRecords action records = .ok plan →
        Step setup desk (desk.plan plan)
  | perform {desk : Desk} {before after : List Plan} {plan : Plan} :
      desk.todo = before ++ plan :: after →
        Step setup desk (desk.perform setup plan (before ++ after))
  | settle {desk : Desk} {before after : List TaskCompletion} {completion : TaskCompletion} :
      desk.session.completions = before ++ completion :: after →
        Step setup desk (desk.settle completion (before ++ after))
  | pass {desk : Desk} {now : Timestamp} (seconds : Binary64) :
      (∃ text, now.stored = .ok text) →
        Step setup desk (desk.pass now seconds)

/-- The store shows the plans in force; each plan that is not empty is to be
performed, under way or dealt with. -/
structure Holds (initial : Store) (desk : Desk) (store : Store) : Prop where
  intact : desk.session.file = .intact store
  sound : store.Sound
  clock : ∃ text, desk.session.now.stored = .ok text
  plans : ∀ plan ∈ desk.planned, plan.Sound initial
  contexts : ∀ completion ∈ desk.session.completions, ∃ plan, completion.context = some plan
  shared : (desk.todo.filter (!·.isEmpty) ++ (desk.underWay ++ desk.concluded)).Perm
    (desk.planned.filter (!·.isEmpty))
  answers : ∀ entry ∈ desk.settled, entry.1.context.isSome ∧ entry.2 = .ok (!entry.1.ok)
  under : initial.Under desk.inForce store
  others : ∀ row ∈ initial.notifications.rows, (∀ plan ∈ desk.planned, row.id ∉ plan.ids) →
    row ∈ store.notifications.rows

variable {setup : Setup} {initial store : Store} {desk next : Desk}

theorem rows_of_intact (intact : desk.session.file = .intact store) :
    desk.rows = store.notifications.rows := by
  rw [rows, intact]

theorem succeeded_sublist (desk : Desk) : desk.succeeded.Sublist desk.concluded :=
  List.filter_sublist.filterMap _

theorem inForce_sublist (desk : Desk) :
    desk.inForce.Sublist (desk.underWay ++ desk.concluded) :=
  desk.succeeded_sublist.append_left _

/-- Plans that are apart in the order in which they were made are so in the order
in which they are carried out. -/
theorem Holds.apart (holds : desk.Holds initial store) (apart : desk.planned.Pairwise Plan.Apart) :
    (desk.todo.filter (!·.isEmpty) ++ (desk.underWay ++ desk.concluded)).Pairwise Plan.Apart :=
  (holds.shared.pairwise_iff Plan.Apart.symm).2 (apart.filter _)

theorem Holds.apart_inForce (holds : desk.Holds initial store)
    (apart : desk.planned.Pairwise Plan.Apart) : desk.inForce.Pairwise Plan.Apart :=
  (List.pairwise_append.1 (holds.apart apart)).2.1.sublist desk.inForce_sublist

theorem Holds.apart_of_todo (holds : desk.Holds initial store)
    (apart : desk.planned.Pairwise Plan.Apart) {plan other : Plan}
    (waiting : plan ∈ desk.todo.filter (!·.isEmpty)) (inside : other ∈ desk.inForce) :
    other.Apart plan :=
  ((List.pairwise_append.1 (holds.apart apart)).2.2 plan waiting other
    (desk.inForce_sublist.subset inside)).symm

theorem Holds.mem_planned (holds : desk.Holds initial store) {plan : Plan}
    (member : plan ∈ desk.todo.filter (!·.isEmpty) ++ (desk.underWay ++ desk.concluded)) :
    plan ∈ desk.planned :=
  List.mem_of_mem_filter (holds.shared.subset member)

theorem Holds.mem_planned_of_inForce (holds : desk.Holds initial store) {plan : Plan}
    (member : plan ∈ desk.inForce) : plan ∈ desk.planned :=
  holds.mem_planned (List.mem_append_right _ (desk.inForce_sublist.subset member))

/-! ## Steps -/

/-- A plan that is apart from the earlier ones can be written back into the store
as it was at first. -/
theorem Holds.sound_plan (holds : desk.Holds initial store) {action : Action}
    {records : List Notification}
    (stored : ∀ record ∈ records, ∃ row ∈ desk.rows, Notification.ofRow row = .ok record)
    (apart : ∀ other ∈ desk.planned, other.Apart (Plan.make action records)) :
    (Plan.make action records).Sound initial := by
  rw [rows_of_intact holds.intact] at stored
  apply Plan.sound_make holds.sound (Plan.known_of_stored holds.sound stored)
  intro old present
  obtain ⟨row, member, number, flags⟩ := holds.under.exists_row present
  refine ⟨row, member, number, fun flag set => ?_⟩
  rw [flags, Plan.get_changedBy_of_not_sets]
  intro other inside
  exact (apart other (holds.mem_planned_of_inForce inside)).symm old.id flag set

theorem Holds.plan (holds : desk.Holds initial store) {plan : Plan} (sound : plan.Sound initial) :
    (desk.plan plan).Holds initial store where
  intact := holds.intact
  sound := holds.sound
  clock := holds.clock
  plans := by
    intro other member
    rcases List.mem_append.1 member with member | member
    · exact holds.plans other member
    · rwa [List.mem_singleton.1 member]
  contexts := holds.contexts
  shared := by
    rw [Desk.plan, List.filter_append, List.filter_append]
    refine List.Perm.trans ?_ (holds.shared.append_right _)
    rw [List.append_assoc, List.append_assoc]
    exact List.perm_append_comm.append_left _
  answers := holds.answers
  under := holds.under
  others := fun row present absent =>
    holds.others row present fun other member => absent other (List.mem_append_left _ member)

/-- A row without plans stays as it is when a plan is performed or written back. -/
theorem Holds.others_assigned (holds : desk.Holds initial store) {plan : Plan}
    (planned : plan ∈ desk.planned) {changes : Assignment} (ids : changes.map Prod.fst = plan.ids)
    (text : String) :
    ∀ row ∈ initial.notifications.rows, (∀ plan ∈ desk.planned, row.id ∉ plan.ids) →
      row ∈ (store.assigned text changes).notifications.rows := by
  intro row present absent
  apply Store.mem_assigned_of_not_mem (holds.others row present absent)
  rw [ids]
  exact absent plan planned

theorem perm_concat_append {first second : List Plan} {plan : Plan} :
    (first ++ second ++ [plan]).Perm (first ++ [plan] ++ second) := by
  rw [List.append_assoc, List.append_assoc]
  exact List.perm_append_comm.append_left first

theorem perm_performed (before after underWay concluded : List Plan) (plan : Plan) :
    (before ++ after ++ (underWay ++ [plan] ++ concluded)).Perm
      (before ++ plan :: after ++ (underWay ++ concluded)) := by
  rw [List.perm_iff_count]
  intro other
  simp only [List.count_append, List.count_cons, List.count_nil]
  omega

/-- A plan without notifications is done when it is performed. -/
theorem Holds.perform_of_isEmpty (holds : desk.Holds initial store) {before after : List Plan}
    {plan : Plan} (waiting : desk.todo = before ++ plan :: after) (empty : plan.isEmpty = true) :
    (desk.perform setup plan (before ++ after)).Holds initial store := by
  have nothing : (Plan.perform setup plan).run desk.session = (.ok (), desk.session) := by
    rw [Plan.perform, empty, if_pos rfl]
    rfl
  have shared := holds.shared
  rw [waiting, List.filter_append, List.filter_cons_of_neg (by simp [empty]),
    ← List.filter_append] at shared
  rw [perform, nothing]
  exact ⟨holds.intact, holds.sound, holds.clock, holds.plans, holds.contexts, shared,
    holds.answers, holds.under, holds.others⟩

/-- A plan that is performed is in force. -/
theorem Holds.perform (holds : desk.Holds initial store)
    (apart : desk.planned.Pairwise Plan.Apart) {before after : List Plan} {plan : Plan}
    (waiting : desk.todo = before ++ plan :: after) (filled : plan.isEmpty = false) :
    ∃ later, (desk.perform setup plan (before ++ after)).Holds initial later := by
  obtain ⟨text, stored⟩ := holds.clock
  have inTodo : plan ∈ desk.todo.filter (!·.isEmpty) :=
    List.mem_filter.2 ⟨by simp [waiting], by simp [filled]⟩
  have planned := holds.mem_planned (List.mem_append_left _ inTodo)
  have sound := holds.plans plan planned
  obtain ⟨outcome, session, run, same⟩ :=
    Plan.run_perform setup filled sound.changes holds.intact stored
  have posted := Session.completions_of_offline same
  have underWay : session.completions.filterMap (·.context) = desk.underWay ++ [plan] := by
    rw [posted, List.filterMap_append]
    rfl
  rw [Desk.perform, run]
  refine ⟨store.assigned text plan.changes, ?_⟩
  exact {
    intact := Session.file_of_offline same
    sound := holds.sound.assigned stored _
    clock := ⟨text, by rw [Session.now_of_offline same]; exact stored⟩
    plans := holds.plans
    contexts := by
      intro completion member
      rw [posted] at member
      rcases List.mem_append.1 member with member | member
      · exact holds.contexts completion member
      · exact ⟨plan, by rw [List.mem_singleton.1 member]⟩
    shared := by
      refine List.Perm.trans ?_ holds.shared
      rw [Desk.underWay, underWay, waiting, List.filter_append, List.filter_append,
        List.filter_cons_of_pos (by simp [filled])]
      exact perm_performed ..
    answers := holds.answers
    under := by
      have performed := holds.under.performed sound text
      rw [inForce, Desk.underWay, underWay]
      refine performed.perm perm_concat_append (List.pairwise_append.2 ⟨holds.apart_inForce apart,
        List.pairwise_singleton _ _, ?_⟩)
      intro other inside _ last
      rw [List.mem_singleton.1 last]
      exact holds.apart_of_todo apart inTodo inside
    others := holds.others_assigned planned rfl text }

theorem perm_settled (before after succeeded : List Plan) (plan : Plan) :
    (before ++ plan :: after ++ succeeded).Perm (before ++ after ++ succeeded ++ [plan]) := by
  rw [List.perm_iff_count]
  intro other
  simp only [List.count_append, List.count_cons, List.count_nil]
  omega

section Settling

variable {before after : List TaskCompletion} {completion : TaskCompletion} {plan : Plan}

theorem underWay_of_waiting (waiting : desk.session.completions = before ++ completion :: after)
    (context : completion.context = some plan) :
    desk.underWay = before.filterMap (·.context) ++ plan :: after.filterMap (·.context) := by
  rw [underWay, waiting, List.filterMap_append, List.filterMap_cons_some context]

/-- A plan whose outcome is taken is in force beside the others. -/
theorem Holds.under_taken (holds : desk.Holds initial store)
    (apart : desk.planned.Pairwise Plan.Apart)
    (waiting : desk.session.completions = before ++ completion :: after)
    (context : completion.context = some plan) :
    initial.Under ((before ++ after).filterMap (·.context) ++ desk.succeeded ++ [plan]) store ∧
      ∀ other ∈ (before ++ after).filterMap (·.context) ++ desk.succeeded, plan.Apart other := by
  have moved : desk.inForce.Perm
      ((before ++ after).filterMap (·.context) ++ desk.succeeded ++ [plan]) := by
    rw [inForce, underWay_of_waiting waiting context, List.filterMap_append]
    exact perm_settled ..
  have inForce := holds.apart_inForce apart
  refine ⟨holds.under.perm moved inForce, fun other inside => ?_⟩
  have ordered := (moved.pairwise_iff Plan.Apart.symm).1 inForce
  exact ((List.pairwise_append.1 ordered).2.2 other inside plan List.mem_cons_self).symm

theorem Holds.shared_settled (holds : desk.Holds initial store)
    (waiting : desk.session.completions = before ++ completion :: after)
    (context : completion.context = some plan) :
    (desk.todo.filter (!·.isEmpty) ++ ((before ++ after).filterMap (·.context) ++
      (desk.concluded ++ [plan]))).Perm (desk.planned.filter (!·.isEmpty)) := by
  have shared := holds.shared
  rw [underWay_of_waiting waiting context] at shared
  refine List.Perm.trans (List.Perm.append_left _ ?_) shared
  rw [List.filterMap_append, ← List.append_assoc]
  exact (perm_settled ..).symm

/-- An outcome was dealt with as it should: the plan stays in force if it
succeeded. -/
theorem Holds.settled (holds : desk.Holds initial store)
    (waiting : desk.session.completions = before ++ completion :: after)
    (context : completion.context = some plan) {later : Store}
    (run : (Plan.settle completion).run { desk.session with completions := before ++ after } =
      (.ok (!completion.ok),
        { desk.session with completions := before ++ after, file := .intact later }))
    (sound : later.Sound)
    (under : initial.Under ((before ++ after).filterMap (·.context) ++ desk.succeeded ++
      if completion.ok then [plan] else []) later)
    (others : ∀ row ∈ initial.notifications.rows, (∀ plan ∈ desk.planned, row.id ∉ plan.ids) →
      row ∈ later.notifications.rows) :
    (desk.settle completion (before ++ after)).Holds initial later := by
  have shared := holds.shared_settled waiting context
  rw [Desk.settle, run]
  exact {
    intact := rfl
    sound := sound
    clock := holds.clock
    plans := holds.plans
    contexts := by
      intro other member
      apply holds.contexts other
      rw [waiting]
      rcases List.mem_append.1 member with member | member <;> simp [member]
    shared := by
      simpa [underWay, concluded, context] using shared
    answers := by
      intro entry member
      rcases List.mem_append.1 member with member | member
      · exact holds.answers entry member
      · rw [List.mem_singleton.1 member]
        exact ⟨by rw [context]; rfl, rfl⟩
    under := by
      cases ok : completion.ok <;>
        simpa [inForce, underWay, succeeded, ok, context] using under
    others := others }

/-- Dealing with an outcome takes the plan back if it failed. -/
theorem Holds.settle (holds : desk.Holds initial store)
    (apart : desk.planned.Pairwise Plan.Apart)
    (waiting : desk.session.completions = before ++ completion :: after) :
    ∃ later, (desk.settle completion (before ++ after)).Holds initial later := by
  obtain ⟨plan, context⟩ := holds.contexts completion (by simp [waiting])
  obtain ⟨text, stored⟩ := holds.clock
  obtain ⟨under, others⟩ := holds.under_taken apart waiting context
  cases outcome : completion.outcome with
  | ok value =>
      have ok : completion.ok = true := by rw [Completion.ok, outcome]; rfl
      refine ⟨store, holds.settled waiting context ?_ holds.sound ?_ holds.others⟩
      · rw [Plan.run_settle_of_ok outcome, ok, ← holds.intact]
        rfl
      · rw [ok]
        exact under
  | error error =>
      have ok : completion.ok = false := by rw [Completion.ok, outcome]; rfl
      have planned : plan ∈ desk.planned := by
        refine holds.mem_planned (List.mem_append_right _ (List.mem_append_left _ ?_))
        simp [underWay_of_waiting waiting context]
      have sound := holds.plans plan planned
      have intact : ({ desk.session with completions := before ++ after } : Session).file =
          .intact store := holds.intact
      refine ⟨store.assigned text plan.previous, holds.settled waiting context ?_
        (holds.sound.assigned stored _) ?_ (holds.others_assigned planned sound.ids text)⟩
      · rw [Plan.run_settle_of_error outcome context sound.previous intact stored, ok]
        rfl
      · rw [ok, if_neg Bool.false_ne_true, List.append_nil]
        exact under.undone sound others text

end Settling

/-! ## Runs -/

theorem Holds.step (holds : desk.Holds initial store) (step : Step setup desk next)
    (apart : next.planned.Pairwise Plan.Apart) : ∃ later, next.Holds initial later := by
  cases step with
  | plan stored made =>
      obtain ⟨rfl, _⟩ := Plan.ofRecords_eq_ok made
      have earlier := (List.pairwise_append.1 apart).2.2
      exact ⟨store, holds.plan (holds.sound_plan stored fun other member =>
        earlier other member _ List.mem_cons_self)⟩
  | @perform _ _ plan waiting =>
      cases filled : plan.isEmpty with
      | true => exact ⟨store, holds.perform_of_isEmpty waiting filled⟩
      | false => exact holds.perform apart waiting filled
  | settle waiting => exact holds.settle apart waiting
  | pass seconds usable =>
      exact ⟨store, holds.intact, holds.sound, usable, holds.plans, holds.contexts, holds.shared,
        holds.answers, holds.under, holds.others⟩

/-- The plans that were made stay at the beginning of the list. -/
theorem Step.planned_isPrefix (step : Step setup desk next) : desk.planned <+: next.planned := by
  cases step with
  | plan => exact List.prefix_append ..
  | _ => exact List.prefix_rfl

/-- A working session in which no outcome waits, with no plans. -/
theorem holds_start {session : Session} (intact : session.file = .intact store)
    (sound : store.Sound) (clock : ∃ text, session.now.stored = .ok text)
    (quiet : session.completions = []) : Holds store { session := session } store where
  intact := intact
  sound := sound
  clock := clock
  plans := by simp
  contexts := by simp [quiet]
  shared := by simp [underWay, concluded, quiet]
  answers := by simp
  under := by
    simp only [inForce, underWay, succeeded, quiet]
    exact store.under_nil
  others := fun _ present _ => present

theorem Holds.run {first last : Desk} (holds : first.Holds initial store)
    (run : Relation.ReflTransGen (Step setup) first last)
    (apart : last.planned.Pairwise Plan.Apart) : ∃ later, last.Holds initial later := by
  induction run with
  | refl => exact ⟨store, holds⟩
  | tail _ step ih =>
      obtain ⟨between, held⟩ := ih (apart.sublist step.planned_isPrefix.sublist)
      exact held.step step apart

/-- However plans that are apart are made, performed and settled: once all are
settled, the store is the one at first with exactly the plans that succeeded done
to it, and the answer was for each plan whether it failed. -/
theorem independent_plans_settled {session : Session} (intact : session.file = .intact store)
    (sound : store.Sound) (clock : ∃ text, session.now.stored = .ok text)
    (quiet : session.completions = []) {last : Desk}
    (run : Relation.ReflTransGen (Step setup) { session := session } last)
    (apart : last.planned.Pairwise Plan.Apart) (performed : last.todo = [])
    (settled : last.session.completions = []) :
    ∃ after, last.session.file = .intact after ∧
      last.concluded.Perm (last.planned.filter (!·.isEmpty)) ∧
      (∀ entry ∈ last.settled, entry.1.context.isSome ∧ entry.2 = .ok (!entry.1.ok)) ∧
      after.notifications.rows.map Row.unfetched =
        store.notifications.rows.map (fun row => (row.changedBy last.succeeded).unfetched) ∧
      ∀ row ∈ store.notifications.rows, (∀ plan ∈ last.planned, row.id ∉ plan.ids) →
        row ∈ after.notifications.rows := by
  obtain ⟨after, holds⟩ := (holds_start intact sound clock quiet).run run apart
  have shared := holds.shared
  have under := holds.under
  rw [inForce] at under
  simp only [underWay, performed, settled, List.filter_nil, List.filterMap_nil,
    List.nil_append] at shared under
  exact ⟨after, holds.intact, shared, holds.answers, under, holds.others⟩

/-! ## Two flags of one notification -/

def starPlan : Plan := .make .star [{ id := 1 }]

def readPlan : Plan := .make .markRead [{ id := 1 }]

def bothPlanned : Desk :=
  (plan { session := World.starStart.session } starPlan).plan readPlan

/-- A star that fails and a mark that succeeds are under way. -/
def bothUnderWay : Desk :=
  (bothPlanned.perform .sample starPlan [readPlan]).perform .sample readPlan []

theorem apart_bothPlanned : bothPlanned.planned.Pairwise Plan.Apart := by
  have apart : starPlan.Apart readPlan := by
    intro id flag
    by_cases one : id = 1
    · subst one
      change flag ∈ [Flag.starred] → flag ∉ [Flag.unread]
      cases flag <;> decide
    · have unset : Assignment.at starPlan.changes id = [] :=
        Plan.changes_at_of_not_mem (by simpa using Ne.symm one)
      simp [Plan.Sets, unset]
  exact List.pairwise_pair.2 apart

theorem run_bothUnderWay :
    Relation.ReflTransGen (Step .sample) { session := World.starStart.session } bothUnderWay := by
  have first : Step .sample { session := World.starStart.session }
      (plan { session := World.starStart.session } starPlan) :=
    .plan World.allowed_starStart (Plan.ofRecords_singleton .star _)
  have second : Step .sample (plan { session := World.starStart.session } starPlan) bothPlanned :=
    .plan World.allowed_starStart (Plan.ofRecords_singleton .markRead _)
  have third : Step .sample bothPlanned (bothPlanned.perform .sample starPlan [readPlan]) :=
    @Step.perform _ _ [] [readPlan] starPlan rfl
  have fourth : Step .sample (bothPlanned.perform .sample starPlan [readPlan]) bothUnderWay :=
    @Step.perform _ _ [] [] readPlan rfl
  exact (((Relation.ReflTransGen.single first).tail second).tail third).tail fourth

theorem outcomes_bothUnderWay :
    bothUnderWay.session.completions.map (fun completion => (completion.ok, completion.context)) =
      [(false, some starPlan), (true, some readPlan)] := by
  decide +kernel

/-- Of a star that fails and a mark on the same notification, settled in the other
order, only the mark is in force in the end. -/
theorem only_mark_in_force :
    ∃ last, Relation.ReflTransGen (Step .sample) { session := World.starStart.session } last ∧
      last.planned = [starPlan, readPlan] ∧ last.planned.Pairwise Plan.Apart ∧
      last.todo = [] ∧ last.session.completions = [] ∧
      last.settled.map Prod.snd = [.ok false, .ok true] ∧
      ∃ after, last.session.file = .intact after ∧
        after.notifications.rows.map Row.unfetched =
          [(Notification.written { id := 1, flags := { unread := false } }).unfetched] := by
  obtain ⟨star, others, posted, first, second⟩ := List.map_eq_cons_iff.1 outcomes_bothUnderWay
  obtain ⟨mark, none, rfl, marked, empty⟩ := List.map_eq_cons_iff.1 second
  obtain rfl := List.map_eq_nil_iff.1 empty
  obtain ⟨failed, starContext⟩ := Prod.mk.inj first
  obtain ⟨succeeded, markContext⟩ := Prod.mk.inj marked
  let marked := bothUnderWay.settle mark [star]
  let last := marked.settle star []
  have left : marked.session.completions = [star] := Plan.keeps_settle mark _
  have settled : last.session.completions = [] := Plan.keeps_settle star _
  have late : Step .sample bothUnderWay marked := @Step.settle _ _ [star] [] mark posted
  have finish : Step .sample marked last := @Step.settle _ _ [] [] star left
  have run := (run_bothUnderWay.tail late).tail finish
  obtain ⟨store, intact, sound⟩ := World.fresh_starStart.working
  obtain ⟨after, file, _, answers, rows, _⟩ := independent_plans_settled intact sound
    World.fresh_starStart.clock World.fresh_starStart.quiet run apart_bothPlanned rfl settled
  have inForce : last.succeeded = [readPlan] := by
    simp [last, marked, Desk.succeeded, Desk.settle, bothUnderWay, bothPlanned, Desk.perform,
      Desk.plan, failed, succeeded, markContext]
  refine ⟨last, run, rfl, apart_bothPlanned, rfl, settled, ?_, after, file, ?_⟩
  · have markAnswer := (answers (mark, _) (List.mem_append_left _ List.mem_cons_self)).2
    have starAnswer := (answers (star, _) (List.mem_append_right _ List.mem_cons_self)).2
    rw [succeeded] at markAnswer
    rw [failed] at starAnswer
    change [_, _] = _
    rw [markAnswer, starAnswer]
    rfl
  · obtain rfl := StoreFile.intact.inj intact
    rw [rows, inForce]
    rfl

end Desk

end Triage
