import Triage.Proofs.Console.Ending

/-!
# Errors that escape

An error escapes a run only where settings or a token are looked up outside of what turns
errors into complaints, or where a new token is kept.  Wherever these succeed, every run
ends.
-/

namespace Triage.Console

/-! ## Commands that look for the account first -/

/-- The error of an outcome, if it is one. -/
def fault? {α : Type} : Except Error α → Option Error
  | .ok _ => none
  | .error error => some error

namespace Checkup

/-- An error becomes a finding. -/
theorem run_guarded (work : Work Finding) (machine : Machine) :
    (guarded work).run machine =
      match work.run machine with
      | (.ok finding, after) => (.ok finding, after)
      | (.error error, after) => (.ok ⟨.bad, errorText error⟩, after) := by
  rcases ran : work.run machine with ⟨outcome, after⟩
  have ran : work machine = (outcome, after) := ran
  unfold guarded
  simp only [ExceptT.run, tryCatch, tryCatchThe, MonadExceptOf.tryCatch, bind, ExceptT.bind,
    ExceptT.mk, StateT.bind, ExceptT.tryCatch, ran]
  cases outcome <;> rfl

/-- The error that looking for a token or for the account ends with. -/
def fault? (around : Surroundings) : Option Error :=
  (Console.fault? (around.token? .null)).or (Console.fault? (accountOf around))

end Checkup

/-- The error with which the attempt to log in with a token ends: the token was found to
belong to an account, and cannot be kept. -/
def tokenFault? (around : Surroundings) (replies : List (String × List Reply))
    (account : Account) : Option Error :=
  let profile := (account.client.userProfile.run ⟨replies, []⟩).1
  profile.toOption.bind fun _ => fault? (around.saveToken (.str account.token))

/-- The error with which a login ends: settings cannot be read, or the token that was typed
cannot be kept. -/
def Machine.loginFault? (machine : Machine) : Option Error :=
  match machine.surroundings.settings with
  | .error error => some error
  | .ok settings =>
      let token := Text.strip machine.password
      if token.isEmpty then none
      else tokenFault? machine.surroundings machine.replies ⟨settings, token⟩

/-- The error that escapes when an invocation is followed. -/
def Machine.escape? (machine : Machine) : Invocation → Option Error
  | .pinned _ => fault? (accountOf machine.surroundings)
  | .whoami => fault? (accountOf machine.surroundings)
  | .health => Checkup.fault? machine.surroundings
  | .login => machine.loginFault?
  | _ => none

end Triage.Console
