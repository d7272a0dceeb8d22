import Triage.Proofs.Console.Change

/-!
# How runs end

A run that ends with the status of a success complains of nothing, and one that ends with
that of a failure says why: in a line among the complaints, or as a part of a checkup that
was found to be bad.  The commands that turn every error into a complaint end in any case.
-/

namespace Triage.Console

/-! ## Ends -/

/-- The lines that say why a run failed. -/
inductive Complaint : String → Prop where
  | error (text : String) : Complaint ("Error: " ++ text)
  | usage (text : String) : Complaint ("Usage: tidings " ++ text)
  | notCached (text : String) : Complaint ("Not cached: " ++ text)
  | rolledBack (text : String) : Complaint ("Rolled back " ++ text)

theorem Complaint.append {line : String} (complaint : Complaint line) (text : String) :
    Complaint (line ++ text) := by
  cases complaint <;> rw [String.append_assoc] <;> constructor

/-- Nothing is complained of in a success.  A failure is complained of in one line, or a
part of a checkup was found to be bad and shown as such. -/
inductive Ended (before : Machine) : Nat → Machine → Prop where
  | success {after : Machine} (complaints : after.complaints = before.complaints) :
      Ended before success after
  | failure {after : Machine} {line : String} (complaint : Complaint line)
      (complaints : after.complaints = before.complaints ++ line ++ "\n") :
      Ended before failure after
  | unhealthy {after : Machine} {findings : List (String × Finding)} {shown : String}
      (bad : ∃ entry ∈ findings, entry.2.verdict = .bad)
      (output : after.output = shown ++ Report.health (findings.map fun (name, finding) =>
        (name, finding.verdict.symbol, finding.message)) ++ "\n")
      (complaints : after.complaints = before.complaints) : Ended before failure after

theorem Ended.of_complaints {before between after : Machine} {status : Nat}
    (ended : Ended between status after) (kept : between.complaints = before.complaints) :
    Ended before status after := by
  cases ended with
  | success complaints => exact .success (complaints.trans kept)
  | failure complaint complaints => exact .failure complaint (kept ▸ complaints)
  | unhealthy bad output complaints => exact .unhealthy bad output (complaints.trans kept)

/-- What becomes of work on a machine: a given error escapes from it, or if none does it
comes to an end. -/
inductive Answers (machine : Machine) : Option Error → Work Nat → Prop where
  | escapes {error : Error} {work : Work Nat} {after : Machine}
      (failed : work.run machine = (.error error, after)) : Answers machine (some error) work
  | ends {status : Nat} {work : Work Nat} {after : Machine}
      (ran : work.run machine = (.ok status, after)) (ended : Ended machine status after) :
      Answers machine none work

/-- Work came to an end, or it stopped at an error before it complained of anything. -/
inductive Stopped (before : Machine) : Except Error Nat × Machine → Prop where
  | ended {status : Nat} {after : Machine} (ended : Ended before status after) :
      Stopped before (.ok status, after)
  | failed {error : Error} {after : Machine}
      (complaints : after.complaints = before.complaints) : Stopped before (.error error, after)

/-- Work that comes to an end or stops. -/
def Stops (work : Work Nat) : Prop :=
  ∀ machine, Stopped machine (work.run machine)

/-- Work that comes to an end in any case. -/
def Ends (work : Work Nat) : Prop :=
  ∀ machine, Answers machine none work

section Ends

variable {α : Type} {work : Work Nat}

theorem Ends.stops (ends : Ends work) : Stops work := by
  intro machine
  cases ends machine with
  | ends ran ended =>
      rw [ran]
      exact .ended ended

/-- What does not complain may come first. -/
theorem Stops.after {first : Work α} {next : α → Work Nat}
    (kept : Work.Keeps Machine.complaints first) (rest : ∀ value, Stops (next value)) :
    Stops (first >>= next) := by
  intro machine
  have before := kept machine
  rw [Work.run_bind]
  generalize first.run machine = done at before
  obtain ⟨outcome, between⟩ := done
  cases outcome with
  | error error => exact .failed before
  | ok value =>
      have stopped := rest value between
      change Stopped machine ((next value).run between)
      generalize (next value).run between = done at stopped
      cases stopped with
      | ended ended => exact .ended (ended.of_complaints before)
      | failed complaints => exact .failed (complaints.trans before)

/-- An error at which work stops is complained of. -/
theorem Stops.guarded (stops : Stops work) : Ends (guarded work) := by
  intro machine
  have stopped := stops machine
  have ran := run_guarded machine work
  generalize work.run machine = done at stopped ran
  cases stopped with
  | ended ended => exact .ends ran ended
  | @failed error after complaints =>
      refine .ends ran (.failure (.error error.message) ?_)
      rw [← complaints]
      rfl

end Ends

/-! ## What the parts of a run leave alone -/

/-- What neither the store nor the service has to do with. -/
def Machine.aside (machine : Machine) : Surroundings × String × String :=
  (machine.surroundings, machine.output, machine.complaints)

section Keeps

variable {α : Type}

theorem keeps_useSession (work : SessionWork α) : Work.Keeps Machine.aside (useSession work) :=
  fun _ => rfl

theorem keeps_useRemote (work : RemoteAccess α) : Work.Keeps Machine.aside (useRemote work) :=
  keeps_useSession _

end Keeps

/-! ## Commands that turn every error into a complaint -/

/-- Work in an application says why it refuses something. -/
def Explains (work : AppWork Notice) : Prop :=
  ∀ app text after, work.run app = (.ok (.refused text), after) → Complaint text

section Explains

variable {α : Type}

theorem Explains.after {first : AppWork α} {next : α → AppWork Notice}
    (rest : ∀ value, Explains (next value)) : Explains (first >>= next) := by
  intro app text after refused
  obtain ⟨value, between, _, refused⟩ := Work.bind_eq_ok refused
  exact rest value between text after refused

end Explains

end Triage.Console
