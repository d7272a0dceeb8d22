import Triage.Json.Value

/-!
# Values at paths

A path of keys leads from a value through nested objects.  There is one value at its end or
none, and nothing lies below a value that is no object.
-/

namespace Triage.Json

/-- Whether a value is an object. -/
def isObject : Json → Bool
  | .obj _ => true
  | _ => false

/-- The value at the end of a path of keys, if there is one. -/
def at? : Json → List String → Option Json
  | value, [] => some value
  | .obj fields, key :: path => (fields.lookup key).bind fun inner => inner.at? path
  | _, _ :: _ => none

/-- On the way along a path there stands a value that is no object. -/
def Blocks (value : Json) (path : List String) : Prop :=
  ∃ above below leaf, path = above ++ below ∧ below ≠ [] ∧
    value.at? above = some leaf ∧ leaf.isObject = false

/-- No object that a path of keys can reach has a key twice. -/
inductive Distinct : Json → Prop
  | leaf {value : Json} (single : value.isObject = false) : Distinct value
  | object {fields : Fields} (once : (fields.map Prod.fst).Nodup)
      (inner : ∀ field ∈ fields, Distinct field.2) : Distinct (.obj fields)

variable {value : Json} {fields : Fields} {key : String} {path : List String}

/-! ## Steps along a path -/

@[simp] theorem at?_nil (value : Json) : value.at? [] = some value := by
  cases value <;> rfl

@[simp] theorem at?_obj_cons (fields : Fields) (key : String) (path : List String) :
    (Json.obj fields).at? (key :: path) = (fields.lookup key).bind fun inner => inner.at? path :=
  rfl

theorem at?_cons_of_leaf (leaf : value.isObject = false) (key : String) (path : List String) :
    value.at? (key :: path) = none := by
  cases value with
  | obj fields => cases leaf
  | _ => rfl

theorem at?_cons (value : Json) (key : String) (path : List String) :
    value.at? (key :: path) = (value.at? [key]).bind fun inner => inner.at? path := by
  cases value with
  | obj fields => simp
  | _ => rfl

/-! ## What stands in the way -/

theorem blocks_cons_of_leaf (leaf : value.isObject = false) (key : String)
    (path : List String) : value.Blocks (key :: path) :=
  ⟨[], key :: path, value, rfl, by simp, at?_nil value, leaf⟩

/-- What stands in the way within an object stands below the first key. -/
theorem blocks_obj_cons :
    (Json.obj fields).Blocks (key :: path) ↔
      ∃ inner, fields.lookup key = some inner ∧ inner.Blocks path := by
  constructor
  · rintro ⟨above, below, leaf, split, given, found, single⟩
    cases above with
    | nil =>
        cases Option.some.inj found
        cases single
    | cons first above =>
        obtain ⟨rfl, rfl⟩ := List.cons.inj split
        obtain ⟨inner, known, found⟩ := Option.bind_eq_some_iff.1 found
        exact ⟨inner, known, above, below, leaf, rfl, given, found, single⟩
  · rintro ⟨inner, known, above, below, leaf, rfl, given, found, single⟩
    refine ⟨key :: above, below, leaf, rfl, given, ?_, single⟩
    rw [at?_obj_cons, known]
    exact found

/-- Where a value stands in the way there is nothing. -/
theorem at?_eq_none_of_blocks (blocked : value.Blocks path) : value.at? path = none := by
  obtain ⟨above, below, leaf, rfl, given, found, single⟩ := blocked
  induction above generalizing value with
  | nil =>
      cases Option.some.inj ((at?_nil value).symm.trans found)
      obtain ⟨key, rest, rfl⟩ := List.exists_cons_of_ne_nil given
      exact at?_cons_of_leaf single key rest
  | cons key above ih =>
      cases value with
      | obj fields =>
          obtain ⟨inner, known, found⟩ := Option.bind_eq_some_iff.1 found
          rw [List.cons_append, at?_obj_cons, known]
          exact ih found
      | _ => rfl

/-! ## Objects without repeated keys -/

theorem distinct_obj :
    (Json.obj fields).Distinct ↔
      (fields.map Prod.fst).Nodup ∧ ∀ field ∈ fields, field.2.Distinct := by
  constructor
  · intro distinct
    cases distinct with
    | leaf single => cases single
    | object once inner => exact ⟨once, inner⟩
  · exact fun ⟨once, inner⟩ => .object once inner

theorem Distinct.of_lookup (distinct : (Json.obj fields).Distinct)
    (found : fields.lookup key = some value) : value.Distinct := by
  obtain ⟨before, after, rfl, _⟩ := List.lookup_eq_some_iff.1 found
  exact (distinct_obj.1 distinct).2 (key, value) (by simp)

end Triage.Json
