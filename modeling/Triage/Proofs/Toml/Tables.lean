import Triage.Proofs.Json.Paths
import Triage.Proofs.Keyed
import Triage.Proofs.Work
import Triage.Toml.Document

/-!
# Tables of documents

The tables that are read from a document have no key twice, neither the document's own table
nor any table within it: a key is only ever set where it is not set yet, and what replaces a
table is this table with one more key.
-/

namespace Triage

/-- Setting a key keeps the keys of an object apart. -/
theorem Json.Distinct.put {fields : Json.Fields} {value : Json}
    (distinct : (Json.obj fields).Distinct) (given : value.Distinct) (key : String) :
    (Json.obj (Keyed.put fields key value)).Distinct := by
  obtain ⟨once, inner⟩ := Json.distinct_obj.1 distinct
  refine .object (Keyed.nodup_put once key value) fun field member => ?_
  obtain rfl | ⟨old, _⟩ := (Keyed.mem_put once).1 member
  · exact given
  · exact inner field old

theorem Json.distinct_nil : (Json.obj []).Distinct :=
  .object .nil fun _ member => absurd member List.not_mem_nil

namespace Toml

variable {fields result : Json.Fields} {item : Json} {characters rest : List Char}

theorem orMalformed_eq_ok {α : Type} {found : Option α} {value : α} :
    orMalformed found = .ok value ↔ found = some value := by
  cases found <;> simp [orMalformed]

/-! ## Changes of tables -/

/-- A change of a table that keeps keys apart. -/
def KeepsApart (change : Json.Fields → Option Json.Fields) : Prop :=
  ∀ fields result, (Json.obj fields).Distinct → change fields = some result →
    (Json.obj result).Distinct

theorem keepsApart_some : KeepsApart some := by
  rintro fields _ distinct ⟨⟩
  exact distinct

theorem keepsApart_setNew (key : String) (given : item.Distinct) :
    KeepsApart (setNew key item) := by
  intro fields result distinct set
  rw [setNew, Option.ite_none_left_eq_some] at set
  cases set.2
  exact distinct.put given key

/-- A change within a table is a change of the table around it. -/
theorem KeepsApart.changeAt {change : Json.Fields → Option Json.Fields}
    (keeps : KeepsApart change) (path : List String) : KeepsApart (Toml.changeAt change path) := by
  induction path with
  | nil => exact keeps
  | cons key path ih =>
      intro fields result distinct changed
      rw [Toml.changeAt] at changed
      split at changed
      · obtain ⟨inner, made, rfl⟩ := Option.map_eq_some_iff.1 changed
        exact distinct.put (ih [] inner Json.distinct_nil made) key
      · next known found =>
          obtain ⟨inner, made, rfl⟩ := Option.map_eq_some_iff.1 changed
          exact distinct.put (ih known inner (distinct.of_lookup found) made) key
      · obtain ⟨items, _, rfl⟩ := Option.map_eq_some_iff.1 changed
        exact distinct.put (.leaf rfl) key
      · cases changed

/-- An array that gets one more table is no table itself. -/
theorem keepsApart_addTable (key : String) : KeepsApart (addTable key) := by
  intro fields result distinct added
  rw [addTable] at added
  split at added
  · cases added
    exact distinct.put (.leaf rfl) key
  · cases added
    exact distinct.put (.leaf rfl) key
  · cases added

/-! ## Values -/

section Numbers

variable {negative : Bool}

theorem isObject_of_markedInteger? (read : markedInteger? characters = some (item, rest)) :
    item.isObject = false := by
  unfold markedInteger? at read
  split at read
  · obtain ⟨_, _, equal⟩ := Option.map_eq_some_iff.1 read
    cases equal
    rfl
  · obtain ⟨_, _, equal⟩ := Option.map_eq_some_iff.1 read
    cases equal
    rfl
  · obtain ⟨_, _, equal⟩ := Option.map_eq_some_iff.1 read
    cases equal
    rfl
  · cases read

theorem isObject_of_decimal? (read : decimal? negative characters = some (.ok item, rest)) :
    item.isObject = false := by
  obtain ⟨⟨whole, after⟩, _, read⟩ := Option.bind_eq_some_iff.1 read
  dsimp only at read
  split at read
  · split at read
    · cases read
    · cases read
      rfl
  · cases read
    rfl

theorem isObject_of_wordNumber? (read : wordNumber? negative characters = some (item, rest)) :
    item.isObject = false := by
  unfold wordNumber? at read
  split at read
  · cases read
    rfl
  · cases read
    rfl
  · cases read

theorem isObject_of_unsigned (read : unsigned negative characters = .ok (item, rest)) :
    item.isObject = false := by
  rw [unsigned] at read
  split at read
  · next found =>
      cases read
      exact isObject_of_decimal? found
  · cases read
  · exact isObject_of_wordNumber? (orMalformed_eq_ok.1 read)

/-- A number is no table. -/
theorem isObject_of_number (read : number characters = .ok (item, rest)) :
    item.isObject = false := by
  unfold number at read
  split at read
  · next found =>
      cases read
      exact isObject_of_markedInteger? found
  · split at read
    · exact isObject_of_unsigned read
    · exact isObject_of_unsigned read
    · exact isObject_of_unsigned read

end Numbers

/-- Neither a date or time nor a number is a table. -/
theorem isObject_of_momentOrNumber (read : momentOrNumber characters = .ok (item, rest)) :
    item.isObject = false := by
  rw [momentOrNumber] at read
  split at read
  · obtain ⟨moment, _, read⟩ := Outcome.bind_eq_ok.1 read
    cases read
    rfl
  · exact isObject_of_number read

/-- What is read as an array is no table. -/
theorem isObject_of_array {fuel depth : Nat} {reversed : List Json}
    (read : array fuel depth reversed characters = .ok (item, rest)) : item.isObject = false := by
  induction fuel generalizing reversed characters with
  | zero => cases read
  | succ fuel ih =>
      rw [array] at read
      obtain ⟨⟨first, after⟩, _, read⟩ := Outcome.bind_eq_ok.1 read
      obtain ⟨filler, _, read⟩ := Outcome.bind_eq_ok.1 read
      split at read
      · cases read
        rfl
      · obtain ⟨filler, _, read⟩ := Outcome.bind_eq_ok.1 read
        split at read
        · cases read
          rfl
        · exact ih read
      · cases read

/-- Inline tables that go on from fields whose keys are apart keep them apart. -/
def InlineApart (fuel : Nat) : Prop :=
  ∀ depth closed fields characters item rest, (Json.obj fields).Distinct →
    inlineTable fuel depth closed fields characters = .ok (item, rest) → item.Distinct

/-- No table within a value has a key twice, if inline tables have none. -/
theorem distinct_of_value_succ {fuel depth : Nat} (tables : InlineApart fuel)
    (read : value (fuel + 1) depth characters = .ok (item, rest)) : item.Distinct := by
  unfold value at read
  split at read
  · cases read
  · split at read
    · cases read
    · obtain ⟨_, _, equal⟩ := Option.map_eq_some_iff.1 (orMalformed_eq_ok.1 read)
      cases equal
      exact .leaf rfl
    · obtain ⟨_, _, equal⟩ := Option.map_eq_some_iff.1 (orMalformed_eq_ok.1 read)
      cases equal
      exact .leaf rfl
    · cases read
      exact .leaf rfl
    · cases read
      exact .leaf rfl
    · obtain ⟨filler, _, read⟩ := Outcome.bind_eq_ok.1 read
      split at read
      · cases read
        exact .leaf rfl
      · exact .leaf (isObject_of_array read)
    · obtain ⟨filler, _, read⟩ := Outcome.bind_eq_ok.1 read
      split at read
      · cases read
        exact Json.distinct_nil
      · exact tables _ _ _ _ _ _ Json.distinct_nil read
    · exact .leaf (isObject_of_momentOrNumber read)

/-- An entry of an inline table is a new key, behind which the table goes on or ends. -/
theorem inlineApart_succ {fuel : Nat}
    (values : ∀ depth characters item rest, value fuel depth characters = .ok (item, rest) →
      item.Distinct)
    (tables : InlineApart fuel) : InlineApart (fuel + 1) := by
  intro depth closed fields characters item rest distinct read
  rw [inlineTable] at read
  obtain ⟨⟨path, after⟩, _, read⟩ := Outcome.bind_eq_ok.1 read
  dsimp only at read
  split at read
  · obtain ⟨⟨inner, after⟩, found, read⟩ := Outcome.bind_eq_ok.1 read
    dsimp only at read
    split at read
    · cases read
    · obtain ⟨stem, _, read⟩ := Outcome.bind_eq_ok.1 read
      obtain ⟨changed, made, read⟩ := Outcome.bind_eq_ok.1 read
      have kept : (Json.obj changed).Distinct :=
        (keepsApart_setNew stem (values _ _ _ _ found)).changeAt path.dropLast
          fields changed distinct (orMalformed_eq_ok.1 made)
      obtain ⟨filler, _, read⟩ := Outcome.bind_eq_ok.1 read
      split at read
      · cases read
        exact kept
      · obtain ⟨filler, _, read⟩ := Outcome.bind_eq_ok.1 read
        split at read
        · cases read
          exact kept
        · exact tables _ _ _ _ _ _ kept read
      · cases read
  · cases read

/-- No table within a value has a key twice. -/
theorem distinct_of_value {fuel depth : Nat}
    (read : value fuel depth characters = .ok (item, rest)) : item.Distinct := by
  suffices InlineApart fuel ∧ ∀ depth characters item rest,
      value fuel depth characters = .ok (item, rest) → item.Distinct from this.2 _ _ _ _ read
  clear read
  induction fuel with
  | zero => exact ⟨nofun, nofun⟩
  | succ fuel ih =>
      obtain ⟨tables, values⟩ := ih
      exact ⟨inlineApart_succ values tables, fun _ _ _ _ => distinct_of_value_succ tables⟩

/-! ## Documents -/

namespace Document

variable {document next : Document}

/-- The table of a document keeps keys apart. -/
def Apart (document : Document) : Prop :=
  (Json.obj document.fields).Distinct

theorem Apart.set (apart : document.Apart) (given : item.Distinct) {path : List String}
    (done : document.set path item = some next) : next.Apart := by
  simp only [Document.set] at done
  split at done
  · cases done
  · obtain ⟨stem, _, done⟩ := Option.bind_eq_some_iff.1 done
    split at done
    · cases done
    · obtain ⟨fields, made, done⟩ := Option.bind_eq_some_iff.1 done
      cases done
      exact (keepsApart_setNew stem given).changeAt _ _ _ apart made

theorem Apart.openTable (apart : document.Apart) {path : List String}
    (done : document.openTable path = some next) : next.Apart := by
  simp only [Document.openTable] at done
  split at done
  · cases done
  · obtain ⟨fields, made, rfl⟩ := Option.map_eq_some_iff.1 done
    exact keepsApart_some.changeAt path _ _ apart made

theorem Apart.addItem (apart : document.Apart) {path : List String}
    (done : document.addItem path = some next) : next.Apart := by
  simp only [Document.addItem] at done
  split at done
  · cases done
  · obtain ⟨stem, _, done⟩ := Option.bind_eq_some_iff.1 done
    obtain ⟨fields, made, done⟩ := Option.bind_eq_some_iff.1 done
    cases done
    exact (keepsApart_addTable stem).changeAt _ _ _ apart made

theorem Apart.heading (apart : document.Apart)
    (done : document.heading characters = .ok (next, rest)) : next.Apart := by
  obtain ⟨⟨path, after⟩, _, done⟩ := Outcome.bind_eq_ok.1 done
  dsimp only at done
  split at done
  · obtain ⟨opened, found, done⟩ := Outcome.bind_eq_ok.1 done
    cases done
    exact apart.openTable (orMalformed_eq_ok.1 found)
  · cases done

theorem Apart.itemHeading (apart : document.Apart)
    (done : document.itemHeading characters = .ok (next, rest)) : next.Apart := by
  obtain ⟨⟨path, after⟩, _, done⟩ := Outcome.bind_eq_ok.1 done
  dsimp only at done
  split at done
  · obtain ⟨added, found, done⟩ := Outcome.bind_eq_ok.1 done
    cases done
    exact apart.addItem (orMalformed_eq_ok.1 found)
  · cases done

theorem Apart.statement (apart : document.Apart)
    (done : document.statement characters = .ok (next, rest)) : next.Apart := by
  unfold Document.statement at done
  split at done
  · cases done
    exact apart
  · cases done
    exact apart
  · cases done
    exact apart
  · exact apart.itemHeading done
  · exact apart.heading done
  · obtain ⟨⟨path, item, after⟩, read, done⟩ := Outcome.bind_eq_ok.1 done
    obtain ⟨changed, found, done⟩ := Outcome.bind_eq_ok.1 done
    cases done
    refine apart.set ?_ (orMalformed_eq_ok.1 found)
    rw [entry] at read
    obtain ⟨⟨path, after⟩, _, read⟩ := Outcome.bind_eq_ok.1 read
    dsimp only at read
    split at read
    · obtain ⟨⟨item, after⟩, made, read⟩ := Outcome.bind_eq_ok.1 read
      cases read
      exact distinct_of_value made
    · cases read

theorem Apart.readLines (apart : document.Apart) {fuel : Nat}
    (done : readLines fuel document characters = .ok next) : next.Apart := by
  induction fuel generalizing document characters with
  | zero => cases done
  | succ fuel ih =>
      rw [Document.readLines] at done
      obtain ⟨⟨changed, after⟩, stated, done⟩ := Outcome.bind_eq_ok.1 done
      obtain ⟨left, _, done⟩ := Outcome.bind_eq_ok.1 done
      have kept := apart.statement stated
      split at done
      · cases done
        exact kept
      · exact ih kept done
      · cases done

end Document

/-- No table of a document has a key twice. -/
theorem distinct_of_read {text : String} (done : read text = .ok fields) :
    (Json.obj fields).Distinct := by
  obtain ⟨document, read, rfl⟩ := Outcome.map_eq_ok.1 done
  have empty : Document.Apart {} := Json.distinct_nil
  exact empty.readLines read

end Toml

end Triage
