import Triage.Schema.Field

/-!
# User profiles

The account to which a token belongs.
-/

namespace Triage

open Schema

/-- An account of the service. -/
structure UserProfile where
  id : Option Int := none
  githubId : Option Int := none
  login : Option String := none
  deriving DecidableEq, Repr

namespace UserProfile

/-- The key under which the account's name is found: of its two names the first
that is present. -/
def loginKey (fields : Json.Fields) : String :=
  if fields.has "login" then "login" else "github_login"

/-- A profile's fields, all of which may be absent. -/
def check (fields : Json.Fields) : Checked UserProfile :=
  UserProfile.mk
    <$> optional fields "id" integer
    <*> optional fields "github_id" integer
    <*> optional fields (loginKey fields) text

/-- The profile that a value describes. -/
def ofJson (value : Json) : Except Failure UserProfile :=
  (object check value).toExcept "UserProfile"

/-- The account's name, or another word when it is absent or empty. -/
def loginOr (profile : UserProfile) (word : String) : String :=
  match profile.login with
  | some login => if login.isEmpty then word else login
  | none => word

/-- The description of a profile. -/
def toJson (profile : UserProfile) : Json :=
  .obj [("id", .ofInt? profile.id), ("github_id", .ofInt? profile.githubId),
    ("login", .ofText? profile.login)]

/-- The schema reads the description of a profile as that profile. -/
theorem ofJson_toJson (profile : UserProfile) : ofJson profile.toJson = .ok profile := by
  obtain ⟨id, githubId, login⟩ := profile
  cases id <;> cases githubId <;> cases login <;> rfl

end UserProfile

end Triage
