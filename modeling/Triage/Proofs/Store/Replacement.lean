import Triage.Proofs.Notification.Payload

/-!
# Replacing rows by what the service described

Texts without bytes keep a row from being written.  A replacement by what the service
described succeeds exactly if the same replacement without such texts does and none of
the texts belongs to a row that is written.  It fails as a whole.
-/

namespace Triage

/-! ## Columns that can be written -/

namespace Row

variable {row : Row} {halved : List (String × Text.Halved)}

theorem columnFault?_eq_none_iff {column : String × Json} :
    columnFault? halved column = none ↔
      halved.lookup column.1 = none ∧
        ∀ number, column.2 = .int number → Width.fits64 number = true := by
  rw [columnFault?]
  obtain ⟨name, value⟩ := column
  cases halved.lookup name with
  | some text => simp
  | none => cases value <;> simp

/-- The integers that a row writes are its numbers and its flags, which are zeros and
ones. -/
theorem fits_iff_columns :
    row.fits = true ↔ ∀ column ∈ row.columns, ∀ number, column.2 = .int number →
      Width.fits64 number = true := by
  have text (value : Option String) (number : Int) : Json.ofText? value ≠ .int number := by
    cases value <;> simp [Json.ofText?]
  have bit (value : Bool) : Width.fits64 (if value then 1 else 0) = true := by
    cases value <;> decide
  obtain ⟨id, _, _, flags, _, _, _, ⟨repoId, _, _, _⟩, _, _, _, _⟩ := row
  cases repoId <;> simp [fits, columns, text, Flags.bit, bit, Json.ofInt?]

/-- A row can be written exactly if its integers fit and no column has a text without
bytes. -/
theorem fault?_eq_none_iff :
    row.fault? halved = none ↔
      row.fits = true ∧ ∀ column ∈ row.columns, halved.lookup column.1 = none := by
  rw [fault?, List.findSome?_eq_none_iff, fits_iff_columns, ← forall₂_and]
  exact forall₂_congr fun column _ => columnFault?_eq_none_iff.trans and_comm

/-- A row without such texts is refused for its integers alone. -/
theorem fault?_nil (row : Row) :
    row.fault? [] = if row.fits then none else some (.overflow .storedInteger) := by
  split
  · next fits => exact fault?_eq_none_iff.2 ⟨fits, fun _ _ => rfl⟩
  · next misfit =>
      cases found : row.fault? [] with
      | none => exact absurd (fault?_eq_none_iff.1 found).1 misfit
      | some error =>
          obtain ⟨column, _, refused⟩ := List.exists_of_findSome?_eq_some found
          rw [columnFault?, List.lookup_nil] at refused
          split at refused
          · contradiction
          · split at refused <;> cases refused
            rfl
          · cases refused

/-- What keeps a row from being written is none of the expected errors. -/
theorem isTyped_of_fault? {error : Error} (found : row.fault? halved = some error) :
    error.isTyped = false := by
  obtain ⟨column, _, refused⟩ := List.exists_of_findSome?_eq_some found
  rw [columnFault?] at refused
  split at refused
  · cases refused
    rfl
  · split at refused <;> cases refused
    rfl
  · cases refused

end Row

/-! ## Writing rows with such texts -/

namespace Transaction

theorem run_writeMarked (row : Row) (halved : List (String × Text.Halved)) (store : Store) :
    (writeMarked row halved).run store =
      match row.fault? halved with
      | some error => (.error error, store)
      | none => (.ok (), { store with notifications := store.notifications.put row }) := by
  rw [writeMarked]
  cases row.fault? halved <;> rfl

theorem writeMarked_nil (row : Row) : writeMarked row [] = write row := by
  rw [writeMarked, Row.fault?_nil, write, requireFits]
  cases row.fits <;> rfl

theorem forM_writeMarked_nil (rows : List Row) :
    (rows.map (·, [])).forM (fun row => writeMarked row.1 row.2) = writeAll rows := by
  induction rows with
  | nil => rfl
  | cons row rest ih => rw [List.map_cons, Work.run_forM_cons, ih, writeMarked_nil, writeAll]

/-- Rows are written exactly if nothing keeps one of them from it. -/
theorem run_writeMarked_eq_ok {rows : List (Row × List (String × Text.Halved))}
    {store after : Store} :
    (rows.forM fun row => writeMarked row.1 row.2).run store = (.ok (), after) ↔
      (∀ row ∈ rows, row.1.fault? row.2 = none) ∧
        after = { store with
          notifications := (rows.map Prod.fst).foldl Table.put store.notifications } := by
  induction rows generalizing store with
  | nil =>
      constructor
      · intro done
        cases done
        exact ⟨by simp, rfl⟩
      · rintro ⟨_, rfl⟩
        rfl
  | cons row rest ih =>
      rw [Work.run_forM_cons, Work.run_bind, run_writeMarked]
      cases fault : row.1.fault? row.2 with
      | some error =>
          constructor
          · intro done
            cases done
          · rintro ⟨free, _⟩
            simp [fault] at free
      | none => simp only [ih, List.forall_mem_cons, fault, true_and, List.map_cons,
          List.foldl_cons]

end Transaction

/-! ## Rows of what the service described -/

namespace Notification.Received

variable {now : Timestamp} {received : Received}

theorem toRow_eq_ok {row : Row × List (String × Text.Halved)} :
    received.toRow now = .ok row ↔
      received.record.toRow now = .ok row.1 ∧ row.2 = received.halved := by
  obtain ⟨row, halved⟩ := row
  rw [toRow, Outcome.bind_eq_ok]
  constructor
  · rintro ⟨_, made, same⟩
    cases same
    exact ⟨made, rfl⟩
  · rintro ⟨made, rfl⟩
    exact ⟨row, made, rfl⟩

/-- A text without bytes among some fields ends in one of the columns. -/
theorem exists_column_of_mem_halvedColumns {fields : Json.Fields}
    {columns : List (String × String)} {mark : String × Text.Halved}
    (member : mark ∈ halvedColumns fields columns) : ∃ column ∈ columns, column.2 = mark.1 := by
  obtain ⟨column, known, same⟩ := List.mem_filterMap.1 member
  split at same <;> cases same
  exact ⟨column, known, rfl⟩

/-- The texts without bytes of an object all end in columns of a row. -/
theorem exists_column_of_mem_halvedTexts {fields : Json.Fields} {mark : String × Text.Halved}
    (member : mark ∈ halvedTexts fields) (row : Row) :
    ∃ column ∈ row.columns, column.1 = mark.1 := by
  have among {part : Json.Fields} {columns : List (String × String)}
      (known : ∀ column ∈ columns, ∃ entry ∈ row.columns, entry.1 = column.2)
      (there : mark ∈ halvedColumns part columns) : ∃ column ∈ row.columns, column.1 = mark.1 := by
    obtain ⟨column, listed, same⟩ := exists_column_of_mem_halvedColumns there
    rw [← same]
    exact known column listed
  rw [halvedTexts, List.mem_append, List.mem_append] at member
  obtain (plain | subject) | repo := member
  · exact among (by simp [Row.columns]) plain
  · split at subject
    · exact among (by simp [subjectColumns, Row.columns]) subject
    · cases subject
  · split at repo
    · exact among (by simp [Row.columns]) repo
    · cases repo

/-- A notification that the service described can be written only if all of its texts have
bytes. -/
theorem halved_eq_nil {room : Nat} {clock : Timestamp} {payload : Json}
    (accepted : receive room clock payload = .ok received) {row : Row}
    (free : row.fault? received.halved = none) : received.halved = [] := by
  obtain ⟨fields, -, same⟩ := halved_of_receive accepted
  rw [List.eq_nil_iff_forall_not_mem]
  intro mark member
  obtain ⟨column, known, named⟩ := exists_column_of_mem_halvedTexts (same ▸ member) row
  have absent := (Row.fault?_eq_none_iff.1 free).2 column known
  rw [named, List.lookup_eq_none_iff] at absent
  simpa using absent mark member

/-- Notifications of which all texts have bytes give rows without others. -/
theorem mapM_toRow_of_plain {every : List Received} (plain : ∀ each ∈ every, each.halved = []) :
    every.mapM (fun each => each.toRow now) =
      (·.map (·, [])) <$> (every.map record).mapM fun record => record.toRow now := by
  induction every with
  | nil => rfl
  | cons each rest ih =>
      obtain ⟨first, others⟩ := List.forall_mem_cons.1 plain
      rw [List.map_cons, List.mapM_cons, List.mapM_cons, ih others, toRow, first]
      cases each.record.toRow now with
      | error error => rfl
      | ok row => cases (rest.map record).mapM (fun other => other.toRow now) <;> rfl

/-- The rows of some notifications, apart from their texts without bytes. -/
theorem mapM_record {every : List Received} {rows : List (Row × List (String × Text.Halved))}
    (made : every.mapM (fun each => each.toRow now) = .ok rows) :
    (every.map record).mapM (fun record => record.toRow now) = .ok (rows.map Prod.fst) := by
  induction every generalizing rows with
  | nil =>
      cases made
      rfl
  | cons each rest ih =>
      rw [List.mapM_cons] at made
      obtain ⟨row, first, made⟩ := Outcome.bind_eq_ok.1 made
      obtain ⟨others, later, made⟩ := Outcome.bind_eq_ok.1 made
      cases made
      rw [List.map_cons, List.mapM_cons, (toRow_eq_ok.1 first).1, ih later]
      rfl

end Notification.Received

namespace Store

variable {now : Timestamp} {received : List Notification.Received} {store : Store}
  {file after : StoreFile} {count : Nat}

/-- The last rows of their numbers, with their texts without bytes. -/
def latestMarked (rows : List (Row × List (String × Text.Halved))) :
    List (Row × List (String × Text.Halved)) :=
  (Keyed.ofList (rows.map fun row => (row.1.id, row))).map Prod.snd

theorem mem_latestMarked {rows : List (Row × List (String × Text.Halved))}
    {row : Row × List (String × Text.Halved)} :
    row ∈ latestMarked rows ↔ Keyed.IsLast (fun row => row.1.id) rows row :=
  Keyed.mem_values_ofList

/-- Which rows are the last ones does not depend on such texts. -/
theorem map_fst_latestMarked (rows : List (Row × List (String × Text.Halved))) :
    (latestMarked rows).map Prod.fst = latest (rows.map Prod.fst) := by
  have keyed : (rows.map Prod.fst).map (fun row => (row.id, row)) =
      (rows.map fun row => (row.1.id, row)).map (Prod.map id Prod.fst) := by
    simp only [List.map_map]
    rfl
  rw [latest, keyed, Keyed.ofList_map, latestMarked, List.map_map, List.map_map]
  rfl

/-- Where all texts have bytes, a replacement is one by the notifications themselves. -/
theorem replaceReceived_of_plain (plain : ∀ each ∈ received, each.halved = [])
    (file : StoreFile) :
    (replaceReceived now received).run file =
      (replaceAll now (received.map (·.record))).run file := by
  rw [replaceReceived, replaceAll, Work.run_bind, Work.run_bind, Work.run_mapM_lift,
    Work.run_mapM_lift, Notification.Received.mapM_toRow_of_plain plain]
  cases (received.map (·.record)).mapM fun record => record.toRow now with
  | error error => rfl
  | ok rows =>
      have keyed : ((rows.map (·, [])).map fun row : Row × List (String × Text.Halved) =>
          (row.1.id, row)) =
          (rows.map fun row => (row.id, row)).map (Prod.map id (·, [])) := by
        simp only [List.map_map]
        rfl
      have same : latestMarked (rows.map (·, [])) = (latest rows).map (·, []) := by
        rw [latestMarked, keyed, Keyed.ofList_map, latest, List.map_map, List.map_map]
        rfl
      change (Transaction.commit (do
          Transaction.deleteAll
          (latestMarked (rows.map (·, []))).forM fun row => Transaction.writeMarked row.1 row.2
          Transaction.recordSync notificationsResource now none) >>= fun _ =>
            pure (latestMarked (rows.map (·, []))).length : StoreAccess Nat).run file = _
      rw [same, Transaction.forM_writeMarked_nil, List.length_map]
      rfl

/-- A replacement that succeeds is one without texts that have no bytes: none of the rows
that are written has any. -/
theorem replaceReceived_eq_ok
    (done : (replaceReceived now received).run (.intact store) = (.ok count, file)) :
    ∃ rows, received.mapM (fun each => each.toRow now) = .ok rows ∧
      (∀ row ∈ latestMarked rows, row.1.fault? row.2 = none) ∧
      (replaceAll now (received.map (·.record))).run (.intact store) = (.ok count, file) := by
  obtain ⟨rows, between, first, done⟩ := Work.bind_eq_ok done
  rw [Work.run_mapM_lift] at first
  obtain ⟨made, rfl⟩ := Prod.mk.inj first
  obtain ⟨_, kept, committed, done⟩ := Work.bind_eq_ok done
  obtain ⟨changed, written, rfl⟩ := Transaction.commit_eq_ok committed
  obtain ⟨_, cleared, deleted, written⟩ := Work.bind_eq_ok written
  cases deleted
  obtain ⟨_, filled, inserted, written⟩ := Work.bind_eq_ok written
  obtain ⟨free, rfl⟩ := Transaction.run_writeMarked_eq_ok.1 inserted
  obtain ⟨text, stored, rfl⟩ := Transaction.recordSync_eq_ok written
  cases done
  have same := map_fst_latestMarked rows
  have fits : ∀ row ∈ latest (rows.map Prod.fst), row.fits = true := by
    rw [← same]
    intro row member
    obtain ⟨marked, present, rfl⟩ := List.mem_map.1 member
    exact (Row.fault?_eq_none_iff.1 (free marked present)).1
  refine ⟨rows, made, free, ?_⟩
  rw [run_replaceAll_of_rows (Notification.Received.mapM_record made) fits stored, ← same,
    List.length_map]
  rfl

/-- A replacement that succeeds leaves an intact file: the store with other rows and the time
of their fetching. -/
theorem exists_replaced
    (done : (replaceReceived now received).run (.intact store) = (.ok count, file)) :
    ∃ rows text, file = .intact (store.replaced rows text) := by
  obtain ⟨_, _, _, replaced⟩ := replaceReceived_eq_ok done
  obtain ⟨rows, text, _, _, _, _, same⟩ := replaceAll_eq_ok replaced
  exact ⟨latest rows, text, same⟩

/-- Among the rows that a replacement writes are those of the last notifications of their
numbers. -/
theorem fault?_of_isLast {rows : List (Row × List (String × Text.Halved))}
    (made : received.mapM (fun each => each.toRow now) = .ok rows)
    (free : ∀ row ∈ latestMarked rows, row.1.fault? row.2 = none)
    {each : Notification.Received}
    (last : Keyed.IsLast (fun each => each.record.id) received each) :
    (each.record.onUtc now).written.fault? each.halved = none := by
  have known (other : Notification.Received) (row : Row × List (String × Text.Halved))
      (written : other.toRow now = .ok row) :
      row = ((other.record.onUtc now).written, other.halved) := by
    obtain ⟨first, second⟩ := Notification.Received.toRow_eq_ok.1 written
    exact Prod.ext (Notification.toRow_eq_ok first) second
  obtain ⟨-, rfl⟩ := (Outcome.mapM_eq_ok_iff known).1 made
  exact free _ (mem_latestMarked.2 (Keyed.isLast_map.2 ⟨each, last, rfl⟩))

/-- A replacement that fails leaves the file as it was. -/
theorem replaceReceived_run_error {error : Error}
    (failed : (replaceReceived now received).run file = (.error error, after)) :
    after = file := by
  obtain failed | ⟨rows, between, made, failed⟩ := Work.bind_eq_error failed
  · rw [Work.run_mapM_lift] at failed
    exact (Prod.mk.inj failed).2.symm
  · rw [Work.run_mapM_lift] at made
    obtain ⟨_, rfl⟩ := Prod.mk.inj made
    obtain failed | ⟨_, _, _, failed⟩ := Work.bind_eq_error failed
    · exact Transaction.commit_run_error failed
    · cases failed

end Store

end Triage
