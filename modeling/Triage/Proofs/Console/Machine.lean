import Triage.Console.Run
import Triage.Proofs.Screen.Run
import Triage.Proofs.Store.Bookkeeping

/-!
# Runs on a machine

What the steps of a run do to the machine.  Reading settings and tokens changes
nothing, work in a session changes only what belongs to it, and an error that is turned
into a complaint ends with the status of a failure.
-/

namespace Triage.Console

/-! ## Outcomes, complaints and sessions -/

/-- The machine after a complaint. -/
def Machine.complained (machine : Machine) (text : String) : Machine :=
  { machine with complaints := machine.complaints ++ text ++ "\n" }

/-- The machine after a text was shown. -/
def Machine.said (machine : Machine) (text : String) : Machine :=
  { machine with output := machine.output ++ text ++ "\n" }

section Steps

variable {α : Type} (machine : Machine)

/-- The machine after a question to the user. -/
def Machine.asked (machine : Machine) (question : String) : Machine :=
  { machine with prompts := machine.prompts ++ [question] }

@[simp] theorem run_useSession (work : SessionWork α) :
    (useSession work).run machine =
      ((work.run machine.session).1, machine.afterSession (work.run machine.session).2) := rfl

@[simp] theorem run_useApp (work : AppWork α) :
    (useApp work).run machine =
      ((work.run { session := machine.session }).1,
        machine.afterSession (work.run { session := machine.session }).2.session) := rfl

/-- What is done before an error stays done, and the error becomes a complaint. -/
theorem run_guarded (work : Work Nat) :
    (guarded work).run machine =
      match work.run machine with
      | (.ok status, after) => (.ok status, after)
      | (.error error, after) => (.ok failure, after.complained (errorText error)) := by
  rw [guarded, Work.run_tryCatch]
  rcases work.run machine with ⟨outcome, after⟩
  cases outcome <;> rfl

@[simp] theorem run_openJournal :
    openJournal.run machine =
      (machine.surroundings.openJournal machine.surroundings.journalLocation, machine) := by
  rw [openJournal, Work.run_bind, Work.run_get]
  exact Work.run_ofExcept _ machine

end Steps

/-! ## The account -/

/-- The account that surroundings give, if there is a token. -/
def accountOf (around : Surroundings) : Except Error (Option Account) := do
  let settings ← around.settings
  let token ← around.token? (.obj settings)
  return (token.filter fun token => !token.isEmpty).map fun token => ⟨settings, token⟩

@[simp] theorem run_settings (machine : Machine) :
    settings.run machine = (machine.surroundings.settings, machine) := by
  rw [settings, Work.run_bind, Work.run_get]
  exact Work.run_ofExcept _ machine

/-- Looking for the account changes nothing. -/
@[simp] theorem run_account? (machine : Machine) :
    account?.run machine = (accountOf machine.surroundings, machine) := by
  rw [account?, Work.run_bind, run_settings, accountOf]
  cases machine.surroundings.settings with
  | error error => rfl
  | ok settings =>
      simp only [Work.run_bind, Work.run_get, Work.run_ofExcept]
      simp only [bind, Except.bind]
      cases machine.surroundings.token? (.obj settings) <;> rfl

/-- The setup of an account speaks for it, and asks for changes at a usual interval. -/
theorem Account.setup_eq_ok {account : Account} {sleep : Json → Except Error Unit}
    {setup : Setup} (made : account.setup sleep = .ok setup) :
    setup.client = account.client ∧ setup.probeInterval.Usable := by
  obtain ⟨found, first, made⟩ := Outcome.bind_eq_ok.1 made
  obtain ⟨_, _, made⟩ := Outcome.bind_eq_ok.1 made
  cases made
  obtain ⟨_, _, first⟩ := Outcome.bind_eq_ok.1 first
  obtain ⟨_, _, first⟩ := Outcome.bind_eq_ok.1 first
  cases first
  exact ⟨rfl, by rintro kind ⟨⟩⟩

/-! ## The store -/

/-- The machine once there is a store. -/
def Machine.opened (machine : Machine) (store : Store) : Machine :=
  { machine with store := some (.intact store) }

section Store

variable {machine after : Machine} {store : Store}

/-- A machine without a store is given an empty one, and any other keeps its own. -/
theorem run_openStore (intact : machine.session.file = .intact store) :
    openStore.run machine =
      match machine.surroundings.makeDirectory machine.surroundings.dataDirectory with
      | .ok () => (.ok (), machine.opened store)
      | .error error => (.error error, machine) := by
  rw [openStore, Work.run_bind, Work.run_get]
  simp only [Work.run_bind, Work.run_ofExcept]
  cases machine.surroundings.makeDirectory machine.surroundings.dataDirectory with
  | error error => rfl
  | ok made =>
      obtain ⟨around, file, now, replies, password, requests, pauses, prompts, output,
        complaints⟩ := machine
      cases file with
      | none =>
          cases intact
          rfl
      | some file =>
          cases intact
          rfl

/-- A file that was opened before is opened again as such. -/
theorem run_openStore_of_some {file : StoreFile} (there : machine.store = some file)
    (made : machine.surroundings.makeDirectory machine.surroundings.dataDirectory = .ok ()) :
    openStore.run machine = ((Store.reopen.run file).1, machine) := by
  rw [openStore, Work.run_bind, Work.run_get]
  simp only [Work.run_bind, Work.run_ofExcept, made, there]
  cases file <;> rfl

/-- What is needed for a change is made ready, and the store with it. -/
theorem prepare_eq_ok (intact : machine.session.file = .intact store) {setup : Setup}
    (done : prepare.run machine = (.ok setup, after)) :
    ∃ account, accountOf machine.surroundings = .ok (some account) ∧
      account.setup machine.sleep = .ok setup ∧ after = machine.opened store := by
  obtain ⟨found, between, looked, done⟩ := Work.bind_eq_ok done
  rw [run_account?] at looked
  obtain ⟨known, rfl⟩ := Prod.mk.inj looked
  cases found with
  | none => cases done
  | some account =>
      obtain ⟨_, between, opened, done⟩ := Work.bind_eq_ok done
      rw [run_openStore intact] at opened
      split at opened
      · cases opened
        simp only [Work.run_bind, Work.run_get, Work.run_ofExcept] at done
        obtain ⟨made, rfl⟩ := Prod.mk.inj done
        exact ⟨account, known, made, rfl⟩
      · cases opened

/-- Making ready may fail, before or after the store is opened. -/
theorem prepare_run_error (intact : machine.session.file = .intact store) {error : Error}
    (failed : prepare.run machine = (.error error, after)) :
    after = machine ∨ after = machine.opened store := by
  rcases Work.bind_eq_error failed with failed | ⟨found, between, looked, failed⟩
  · rw [run_account?] at failed
    exact .inl (Prod.mk.inj failed).2.symm
  · rw [run_account?] at looked
    cases (Prod.mk.inj looked).2
    cases found with
    | none => exact .inl (Prod.mk.inj failed).2.symm
    | some account =>
        rcases Work.bind_eq_error failed with failed | ⟨_, between, opened, failed⟩
        · rw [run_openStore intact] at failed
          split at failed
          · cases failed
          · exact .inl (Prod.mk.inj failed).2.symm
        · rw [run_openStore intact] at opened
          split at opened
          · cases opened
            simp only [Work.run_bind, Work.run_get, Work.run_ofExcept] at failed
            exact .inr (Prod.mk.inj failed).2.symm
          · cases opened

end Store

/-! ## The command line -/

section Arguments

variable {machine : Machine} {arguments : List String}

/-- Arguments that ask for something are followed once there is a journal. -/
theorem run_runArguments_of_ok
    (journal : machine.surroundings.openJournal machine.surroundings.journalLocation = .ok ())
    {invocation : Invocation} (asked : Invocation.ofArguments arguments = .ok invocation) :
    (runArguments arguments).run machine = (run invocation).run machine := by
  have opened : openJournal.run machine = (.ok (), machine) := by rw [run_openJournal, journal]
  rw [runArguments, asked]
  cases invocation with
  | help | version => rfl
  | _ => exact Work.run_bind_ok opened

/-- Arguments that ask for nothing are complained about. -/
theorem run_runArguments_of_error
    (journal : machine.surroundings.openJournal machine.surroundings.journalLocation = .ok ())
    {error : UsageError} (wrong : Invocation.ofArguments arguments = .error error) :
    (runArguments arguments).run machine = (.ok failure, machine.complained error.message) := by
  have opened : openJournal.run machine = (.ok (), machine) := by rw [run_openJournal, journal]
  rw [runArguments, wrong]
  exact Work.run_bind_ok opened

end Arguments

end Triage.Console
