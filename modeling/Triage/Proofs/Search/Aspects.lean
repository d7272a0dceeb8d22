import Mathlib.Data.List.Basic
import Mathlib.Data.List.Find
import Triage.Search.Criteria

/-!
# Aspects of a query

A query asks about its free text, about each compared field in either sense, about types and
about each property that has to have a wished value.  Each of these aspects puts criteria of
its own on notifications and looks at few keys.
-/

namespace Triage.Search

/-! ## Names of what is asked about -/

/-- The names of the compared fields. -/
inductive FieldName where
  | repo
  | owner
  | type
  | reason
  | state
  deriving DecidableEq, Repr

namespace FieldName

/-- Every name, in the order in which fields are looked at. -/
def all : List FieldName := [.repo, .owner, .type, .reason, .state]

theorem mem_all (name : FieldName) : name ∈ all := by
  cases name <;> decide

/-- The field of a name. -/
def compared : FieldName → ComparedField
  | .repo => comparedFields[0]
  | .owner => comparedFields[1]
  | .type => comparedFields[2]
  | .reason => comparedFields[3]
  | .state => comparedFields[4]

theorem map_compared : all.map compared = comparedFields := rfl

/-- The sign in front of keys that ask for a field to hold, or not to hold. -/
def sign (wanted : Bool) : String :=
  if wanted then "" else "-"

/-- The keys that ask for a field to hold, or not to hold. -/
def keys (name : FieldName) (wanted : Bool) : List String :=
  name.compared.keys.map (sign wanted ++ ·)

end FieldName

/-- The properties about which there can be a wish. -/
inductive Property where
  | unread
  | starred
  | archived
  | muted
  | bot
  | inbox
  deriving DecidableEq, Repr

namespace Property

/-- Every property, in the order in which wishes are looked at. -/
def all : List Property := [.unread, .starred, .archived, .muted, .bot, .inbox]

/-- The key of a property. -/
def key : Property → String
  | .unread => "unread"
  | .starred => "starred"
  | .archived => "archived"
  | .muted => "muted"
  | .bot => "bot"
  | .inbox => "inbox"

/-- The values of `is:` that ask for a property, each with the value that it asks for; the
first one that is given counts. -/
def shortcuts : Property → List (String × Bool)
  | .unread => [("read", false), ("unread", true)]
  | .starred => [("starred", true)]
  | .archived => [("archived", true)]
  | .muted => [("muted", true)]
  | .bot => [("human", false), ("bot", true)]
  | .inbox => []

/-- Whether a notification has the property. -/
def holds : Property → Notification → Bool
  | .unread => fun record => record.flags.unread
  | .starred => fun record => record.flags.starred
  | .archived => fun record => record.flags.archived
  | .muted => fun record => record.flags.muted
  | .bot => Notification.isBot
  | .inbox => Notification.inInbox

theorem mem_all (property : Property) : property ∈ all := by
  cases property <;> decide

/-- What a query asks of a property. -/
def wish (query : Query) : Property → Option Bool
  | .unread => (flagWishes query).unread
  | .starred => (flagWishes query).starred
  | .archived => (flagWishes query).archived
  | .muted => (flagWishes query).muted
  | .bot => (flagWishes query).bot
  | .inbox => (flagWishes query).inbox

end Property

/-! ## Aspects -/

/-- What a query asks about. -/
inductive Aspect where
  | freeText
  | field (wanted : Bool) (name : FieldName)
  | types
  | wish (property : Property)
  deriving DecidableEq, Repr

namespace Aspect

/-- Every aspect, in the order in which their criteria are looked at. -/
def all : List Aspect :=
  [.freeText] ++ FieldName.all.map (.field true) ++ [.types] ++ FieldName.all.map (.field false) ++
    Property.all.map .wish

/-- The criteria that a query puts on notifications in one aspect. -/
def criteria (query : Query) : Aspect → List Criterion
  | .freeText => freeTextCriteria query
  | .field wanted name =>
      match firstGiven query (name.keys wanted) with
      | [] => []
      | values => [fun record => name.compared.holds values record == wanted]
  | .types => typeCriteria query
  | .wish property => wishCriterion property.holds (property.wish query)

/-- The keys at which an aspect looks. -/
def keys : Aspect → List String
  | .freeText => []
  | .field wanted name => name.keys wanted
  | .types => ["is"]
  | .wish property => [property.key] ++ if property.shortcuts.isEmpty then [] else ["is"]

theorem mem_all (aspect : Aspect) : aspect ∈ all := by
  cases aspect with
  | freeText | types => decide
  | field wanted name => cases wanted <;> cases name <;> decide
  | wish property =>
      have member := List.mem_map_of_mem (f := wish) property.mem_all
      simp [all, member]

end Aspect

theorem fieldCriteria_eq_flatMap (query : Query) (wanted : Bool) :
    fieldCriteria query (FieldName.sign wanted) wanted =
      FieldName.all.flatMap fun name => Aspect.criteria query (.field wanted name) := by
  rw [fieldCriteria, ← FieldName.map_compared, List.filterMap_map, List.filterMap_eq_flatMap_toList]
  congr 1
  funext name
  simp only [Function.comp_apply, Aspect.criteria, FieldName.keys]
  cases firstGiven query (name.compared.keys.map (FieldName.sign wanted ++ ·)) <;> rfl

/-- The criteria of a query are those of its aspects. -/
theorem criteria_eq_flatMap (query : Query) :
    criteria query = Aspect.all.flatMap (Aspect.criteria query) := by
  have included := fieldCriteria_eq_flatMap query true
  have excluded := fieldCriteria_eq_flatMap query false
  simp only [FieldName.sign, if_true, Bool.false_eq_true, if_false] at included excluded
  rw [criteria, included, excluded]
  simp [Aspect.all, Property.all, wishCriteria, Aspect.criteria, Property.wish, Property.holds,
    List.flatMap_map]

theorem meetsAll_flatMap {α : Type} (items : List α) (conditions : α → List Criterion)
    (record : Notification) :
    meetsAll (items.flatMap conditions) record =
      items.all fun item => meetsAll (conditions item) record := by
  simp [meetsAll, List.all_flatMap]

/-- A notification meets a query if it does so in every aspect. -/
theorem meetsAll_criteria (query : Query) (record : Notification) :
    meetsAll (criteria query) record =
      Aspect.all.all fun aspect => meetsAll (aspect.criteria query) record := by
  rw [criteria_eq_flatMap, meetsAll_flatMap]

/-! ## What an aspect looks at -/

variable {query other : Query}

theorem firstGiven_congr {keys : List String} (same : ∀ key ∈ keys, query.get key = other.get key) :
    firstGiven query keys = firstGiven other keys := by
  induction keys with
  | nil => rfl
  | cons key rest ih =>
      rw [firstGiven, firstGiven, same key (by simp),
        ih fun later member => same later (by simp [member])]

theorem shortcuts_congr (same : query.get "is" = other.get "is") :
    shortcuts query = shortcuts other := by
  rw [shortcuts, shortcuts, same]

theorem directWish_congr {key : String} (same : query.get key = other.get key) :
    directWish query key = directWish other key := by
  rw [directWish, directWish, same]

namespace Property

/-- A value of `is:` that asks for a property wins over its key. -/
theorem wish_eq (property : Property) (query : Query) :
    property.wish query =
      match property.shortcuts.find? fun word => (Search.shortcuts query).contains word.1 with
      | some word => some word.2
      | none => directWish query property.key := by
  cases property <;> simp only [wish, flagWishes, shortcuts, key, List.find?] <;> grind

/-- The wish about a property depends on its key and on the values of `is:` that ask for it. -/
theorem wish_congr {property : Property}
    (short : ∀ word ∈ property.shortcuts,
      (Search.shortcuts query).contains word.1 = (Search.shortcuts other).contains word.1)
    (direct : query.get property.key = other.get property.key) :
    property.wish query = property.wish other := by
  rw [wish_eq, wish_eq, List.find?_congr short, directWish_congr direct]

end Property

namespace Aspect

/-- Two queries ask the same in an aspect, as far as it looks. -/
structure Agree (aspect : Aspect) (query other : Query) : Prop where
  text : aspect = .freeText → query.freeText = other.freeText
  values : ∀ key ∈ aspect.keys, query.get key = other.get key

theorem Agree.criteria {aspect : Aspect} (agree : aspect.Agree query other) :
    aspect.criteria query = aspect.criteria other := by
  cases aspect with
  | freeText => simp only [Aspect.criteria, freeTextCriteria, agree.text rfl]
  | field wanted name =>
      have same : firstGiven query (name.keys wanted) = firstGiven other (name.keys wanted) :=
        firstGiven_congr agree.values
      rw [Aspect.criteria, Aspect.criteria, same]
  | types =>
      have same := shortcuts_congr (agree.values "is" (by simp [keys]))
      simp only [Aspect.criteria, typeCriteria, same]
  | wish property =>
      have wished : property.wish query = property.wish other := by
        refine Property.wish_congr (fun word member => ?_) (agree.values _ (by simp [keys]))
        have asked : property.shortcuts ≠ [] := List.ne_nil_of_mem member
        rw [shortcuts_congr (agree.values "is" (by simp [keys, asked]))]
      simp only [Aspect.criteria, wished]

/-- A query without operators and free text puts no criteria on notifications. -/
theorem criteria_empty (aspect : Aspect) : aspect.criteria {} = [] := by
  cases aspect with
  | freeText | types => rfl
  | field wanted name => cases wanted <;> cases name <;> rfl
  | wish property => cases property <;> rfl

end Aspect

end Triage.Search
