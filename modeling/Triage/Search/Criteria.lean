import Triage.Search.Facet
import Triage.Search.Terms

/-!
# Search criteria

The conditions that a query puts on a notification, all of which have to hold,
and the filter that keeps the notifications of a list that meet them, in the
order of the list.
-/

namespace Triage.Search

/-- A condition on a notification. -/
abbrev Criterion := Notification → Bool

/-- The names under which a subject's type may be asked for. -/
def typeAliases : List (String × String) :=
  [("pr", "PullRequest"),
    ("pullrequest", "PullRequest"),
    ("pull_request", "PullRequest"),
    ("issue", "Issue"),
    ("release", "Release"),
    ("commit", "Commit"),
    ("discussion", "Discussion"),
    ("checksuite", "CheckSuite"),
    ("check_suite", "CheckSuite")]

/-- The type that a name stands for; an unknown name stands for itself. -/
def classifyType (name : String) : String :=
  (typeAliases.lookup (Text.lower name)).getD name

/-- A reason in lower case with underscores for spaces. -/
def normalizeReason (reason : String) : String :=
  Text.replaceChar ' ' '_' (Text.lower reason)

/-- What a query asks of the flags and of properties like them; nothing where it
does not mention them. -/
structure FlagWishes where
  unread : Option Bool
  starred : Option Bool
  archived : Option Bool
  muted : Option Bool
  bot : Option Bool
  inbox : Option Bool
  deriving DecidableEq, Repr

/-- The values of `is:` in lower case. -/
def shortcuts (query : Query) : List String :=
  (query.get "is").map Text.lower

/-- The wish expressed by a key of its own: its first value decides. -/
def directWish (query : Query) (key : String) : Option Bool :=
  match query.get key with
  | [] => none
  | value :: _ => some (Text.lower value == "true")

/-- What a query asks of the flags.  A value of `is:` wins over a key, and of
two opposite values of `is:` the negative one wins. -/
def flagWishes (query : Query) : FlagWishes :=
  let short := shortcuts query
  let positive := fun name => if short.contains name then some true else directWish query name
  let opposed := fun negative name =>
    if short.contains negative then some false else positive name
  { unread := opposed "read" "unread"
    starred := positive "starred"
    archived := positive "archived"
    muted := positive "muted"
    bot := opposed "human" "bot"
    inbox := directWish query "inbox" }

/-- A field that operators compare, in the form in which it is compared. -/
structure ComparedField where
  /-- The keys that ask for the field; the first one that has values counts. -/
  keys : List String
  /-- The field of a notification. -/
  read : Notification → Option String
  /-- The form in which a value of the query is compared. -/
  normalize : String → String

/-- The compared fields, in the order in which they are looked at. -/
def comparedFields : List ComparedField :=
  [⟨["repo"], fun record => record.repo.name.map Text.lower, Text.lower⟩,
    ⟨["owner", "org", "user"], fun record => record.repo.owner.map Text.lower, Text.lower⟩,
    ⟨["type"], fun record => record.subject.kind.map Text.lower,
      fun value => Text.lower (classifyType value)⟩,
    ⟨["reason"], fun record => record.reason.map normalizeReason, normalizeReason⟩,
    ⟨["state"], fun record => record.subject.state.map Text.lower, Text.lower⟩]

/-- The values of the first key that has any. -/
def firstGiven (query : Query) : List String → List String
  | [] => []
  | key :: rest =>
      match query.get key with
      | [] => firstGiven query rest
      | values => values

/-- The value of a field is one of those given. -/
def ComparedField.holds (field : ComparedField) (values : List String) : Criterion :=
  fun record =>
    match field.read record with
    | some value => (values.map field.normalize).contains value
    | none => false

/-- The criteria that a query puts on compared fields, under keys that start
with a sign, given the sense in which the field has to hold. -/
def fieldCriteria (query : Query) (sign : String) (wanted : Bool) : List Criterion :=
  comparedFields.filterMap fun field =>
    match firstGiven query (field.keys.map (sign ++ ·)) with
    | [] => none
    | values => some fun record => field.holds values record == wanted

/-- The free text occurs in a notification's search text, in any case. -/
def freeTextCriteria (query : Query) : List Criterion :=
  if query.freeText.isEmpty then []
  else
    let needle := Text.lower query.freeText
    [fun record => Text.contains needle (Text.lower record.searchText)]

/-- The types that values of `is:` ask for. -/
def typeCriteria (query : Query) : List Criterion :=
  let short := shortcuts query
  (if short.contains "pr" || short.contains "pullrequest" then
    [fun record => record.subject.kind == some "PullRequest"] else []) ++
  (if short.contains "issue" then
    [fun record => record.subject.kind == some "Issue"] else [])

/-- A property that has to have a wished value. -/
def wishCriterion (property : Notification → Bool) : Option Bool → List Criterion
  | some wanted => [fun record => property record == wanted]
  | none => []

/-- The wishes about flags and properties like them. -/
def wishCriteria (wishes : FlagWishes) : List Criterion :=
  wishCriterion (fun record => record.flags.unread) wishes.unread ++
    wishCriterion (fun record => record.flags.starred) wishes.starred ++
    wishCriterion (fun record => record.flags.archived) wishes.archived ++
    wishCriterion (fun record => record.flags.muted) wishes.muted ++
    wishCriterion Notification.isBot wishes.bot ++
    wishCriterion Notification.inInbox wishes.inbox

/-- The criteria of a query. -/
def criteria (query : Query) : List Criterion :=
  freeTextCriteria query ++ fieldCriteria query "" true ++ typeCriteria query ++
    fieldCriteria query "-" false ++ wishCriteria (flagWishes query)

/-- Whether a notification meets every criterion of a list. -/
def meetsAll (conditions : List Criterion) (record : Notification) : Bool :=
  conditions.all fun condition => condition record

/-- The notifications that a facet and a query keep, in their order. -/
def select (facet : Option Facet) (query : Query) (records : List Notification) :
    List Notification :=
  let narrowing := (facet.map Facet.keeps).toList
  records.filter (meetsAll (narrowing ++ criteria query))

/-- The notifications that a search text keeps, in their order. -/
def search (raw : String) (records : List Notification) : List Notification :=
  select none (parse raw) records

/-- Whether a notification passes a search text. -/
def matchesText (record : Notification) (raw : String) : Bool :=
  meetsAll (criteria (parse raw)) record

@[simp] theorem meetsAll_nil (record : Notification) : meetsAll [] record = true := rfl

@[simp] theorem meetsAll_append (first second : List Criterion) (record : Notification) :
    meetsAll (first ++ second) record = (meetsAll first record && meetsAll second record) := by
  simp [meetsAll]

/-- A query that asks for nothing puts no criteria on notifications. -/
theorem criteria_empty : criteria {} = [] := rfl

/-- Without a facet and a query every notification is kept. -/
theorem select_none (records : List Notification) : select none {} records = records := by
  rw [select, criteria_empty]
  exact List.filter_eq_self.2 fun _ _ => rfl

/-- A facet alone keeps the notifications in which its field has its value. -/
theorem select_facet (facet : Facet) (records : List Notification) :
    select (some facet) {} records = records.filter facet.keeps := by
  rw [select, criteria_empty, List.append_nil]
  refine List.filter_congr fun record _ => ?_
  simp [meetsAll]

end Triage.Search
