import Triage.Notification.Row

/-!
# The table of notifications

Rows in ascending order of their numbers, at most one for each number.  Writing
a row replaces the row of the same number.
-/

namespace Triage

/-- Rows by number. -/
structure Table where
  rows : List Row
  /-- The numbers ascend, so that no number occurs twice. -/
  ascending : rows.Pairwise fun first second => first.id < second.id
  deriving Repr

namespace Table

/-- The table without rows. -/
def empty : Table := ⟨[], .nil⟩

instance : Inhabited Table := ⟨empty⟩

/-- Write a row into a list in ascending order. -/
def putRow (row : Row) : List Row → List Row
  | [] => [row]
  | head :: rest =>
      if row.id < head.id then row :: head :: rest
      else if row.id = head.id then row :: rest
      else head :: putRow row rest

/-- A row is in the list after writing exactly if it is the one written or an
old one of another number. -/
theorem mem_putRow {row other : Row} {rows : List Row}
    (ascending : rows.Pairwise fun first second => first.id < second.id) :
    other ∈ putRow row rows ↔ other = row ∨ (other ∈ rows ∧ other.id ≠ row.id) := by
  induction rows with
  | nil => simp [putRow]
  | cons head rest ih =>
      have above := (List.pairwise_cons.1 ascending).1
      have later := ih (List.pairwise_cons.1 ascending).2
      unfold putRow
      split
      · next before =>
          simp only [List.mem_cons]
          constructor
          · rintro (same | same | inside)
            · exact .inl same
            · exact .inr ⟨.inl same, by subst same; omega⟩
            · exact .inr ⟨.inr inside, by have := above other inside; omega⟩
          · rintro (same | ⟨same | inside, _⟩)
            · exact .inl same
            · exact .inr (.inl same)
            · exact .inr (.inr inside)
      · split
        · next equal =>
            simp only [List.mem_cons]
            constructor
            · rintro (same | inside)
              · exact .inl same
              · exact .inr ⟨.inr inside, by have := above other inside; omega⟩
            · rintro (same | ⟨same | inside, differs⟩)
              · exact .inl same
              · subst same; exact absurd equal.symm differs
              · exact .inr inside
        · next beyond differs =>
            simp only [List.mem_cons, later]
            constructor
            · rintro (same | same | ⟨inside, other⟩)
              · exact .inr ⟨.inl same, by subst same; omega⟩
              · exact .inl same
              · exact .inr ⟨.inr inside, other⟩
            · rintro (same | ⟨same | inside, other⟩)
              · exact .inr (.inl same)
              · exact .inl same
              · exact .inr (.inr ⟨inside, other⟩)

theorem ascending_putRow (row : Row) {rows : List Row}
    (ascending : rows.Pairwise fun first second => first.id < second.id) :
    (putRow row rows).Pairwise fun first second => first.id < second.id := by
  induction rows with
  | nil => simp [putRow]
  | cons head rest ih =>
      have parts := List.pairwise_cons.1 ascending
      unfold putRow
      split
      · next before =>
          refine List.pairwise_cons.2 ⟨fun other inside => ?_, ascending⟩
          rcases List.mem_cons.1 inside with same | inside
          · subst same; exact before
          · exact Int.lt_trans before (parts.1 other inside)
      · split
        · next equal =>
            exact List.pairwise_cons.2 ⟨fun other inside => equal ▸ parts.1 other inside, parts.2⟩
        · next beyond differs =>
            refine List.pairwise_cons.2 ⟨fun other inside => ?_, ih parts.2⟩
            rcases (mem_putRow parts.2).1 inside with same | ⟨inside, _⟩
            · subst same; omega
            · exact parts.1 other inside

/-- Write a row. -/
def put (table : Table) (row : Row) : Table :=
  ⟨putRow row table.rows, ascending_putRow row table.ascending⟩

/-- The row of a number. -/
def get? (table : Table) (id : Int) : Option Row :=
  table.rows.find? fun row => row.id == id

/-- Whether a number has a row. -/
def has (table : Table) (id : Int) : Bool :=
  table.rows.any fun row => row.id == id

/-- A row with flags set and a new time of writing. -/
def patchRow (changes : List (Flag × Bool)) (fetchedAt : String) (row : Row) : Row :=
  { row with flags := row.flags.assign changes, fetchedAt := some fetchedAt }

/-- Set flags in the row of a number. -/
def patch (table : Table) (id : Int) (changes : List (Flag × Bool)) (fetchedAt : String) :
    Table where
  rows := table.rows.map fun row => if row.id == id then patchRow changes fetchedAt row else row
  ascending := by
    refine List.pairwise_map.2 (table.ascending.imp fun {first second} before => ?_)
    split <;> split <;> exact before

@[simp] theorem rows_empty : empty.rows = [] := rfl

@[simp] theorem rows_put (table : Table) (row : Row) :
    (table.put row).rows = putRow row table.rows := rfl

@[simp] theorem id_patchRow (changes : List (Flag × Bool)) (fetchedAt : String) (row : Row) :
    (patchRow changes fetchedAt row).id = row.id := rfl

/-- Tables are known by their rows. -/
theorem ext_rows {first second : Table} (same : first.rows = second.rows) : first = second := by
  cases first
  cases second
  cases same
  rfl

end Table

end Triage
