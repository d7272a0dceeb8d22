import Triage.Proofs.Store.Atomic
import Triage.Proofs.Store.Replacement

/-!
# Storing what the service sends

Reading takes integers of any size, times on any clock and texts with halves of surrogate
pairs, the table integers of 64 bits, times within the years 1 to 9999 of UTC and texts that
have bytes.  What is read is stored, and read back as it was, unless a part of it is beyond the
table; then it was an integer or a text of one, a date on a clock apart from UTC, or a text
with a half, and the store refuses it.
-/

namespace Triage

open Schema

/-! ## Times beyond the years -/

namespace Timestamp

variable {time : Timestamp}

theorem withinYears_of_naive (naive : time.offset = none) : time.WithinYears := by
  obtain ⟨wall, offset, bound⟩ := time
  cases naive
  rw [WithinYears, instant_naive, limit]
  omega

theorem offset_of_ofWall? {wall : Int} {offset : Option Int}
    (placed : ofWall? wall offset = some time) : time.offset = offset := by
  rw [ofWall?] at placed
  split at placed
  · cases placed
    rfl
  · cases placed

/-- A count since the start of 1970 gives a time on the UTC clock. -/
theorem utc_of_ofUnix? {seconds : Int} {micros : Nat}
    (read : ofUnix? seconds micros = some (.time time)) : time.offset = some 0 := by
  simp only [ofUnix?] at read
  split at read
  · cases read
  · split at read
    · next placed =>
        cases read
        exact offset_of_ofWall? placed
    · cases read

theorem utc_of_ofCount? {count : Int} (read : ofCount? count = some (.time time)) :
    time.offset = some 0 := by
  rw [ofCount?] at read
  split at read
  all_goals exact utc_of_ofUnix? read

theorem utc_of_ofRealCount? {count : Binary64} (read : ofRealCount? count = some (.time time)) :
    time.offset = some 0 := by
  rw [ofRealCount?] at read
  split at read
  · cases read
  · split at read
    all_goals exact utc_of_ofUnix? read

theorem utc_of_readUnix? {characters : List Char}
    (read : readUnix? characters = some (.time time)) : time.offset = some 0 := by
  rw [readUnix?] at read
  split at read
  · exact utc_of_ofCount? read
  · obtain ⟨count, _, read⟩ := Option.bind_eq_some_iff.1 read
    exact utc_of_ofRealCount? read

theorem offset_of_ofParts {date : Calendar.Date} {micros : Nat} {zone : Option Int}
    (read : ofParts date micros zone = .time time) : time.offset = zone := by
  rw [ofParts] at read
  split at read
  · cases read
  · split at read
    · next placed =>
        cases read
        exact offset_of_ofWall? placed
    · cases read

/-- A text for a time outside the years is a date with a time of day and a zone. -/
theorem readDateTime?_of_ofFieldText {text : String} (read : ofFieldText text = .time time)
    (outside : ¬time.WithinYears) : readDateTime? readZone? text.toList = some (.time time) := by
  simp only [ofFieldText] at read
  split at read
  · next reading found => rw [found, read]
  · split at read
    · next reading found =>
        subst read
        exact absurd (withinYears_of_utc (utc_of_readUnix? found)) outside
    · split at read
      · exact absurd (withinYears_of_naive (offset_of_ofParts read)) outside
      · cases read

end Timestamp

/-! ## Values beyond the table -/

namespace Json

/-- An integer beyond 64 bits, or a text of one. -/
inductive BeyondWord : Json → Prop where
  | int {value : Int} (beyond : Width.fits64 value = false) : BeyondWord (.int value)
  | str {text : String} {value : Int} (read : IntegerText.readField text = .number value)
      (beyond : Width.fits64 value = false) : BeyondWord (.str text)

/-- A date with a time of day on a clock apart from UTC that is outside the years 1 to 9999
of UTC. -/
inductive BeyondYears : Json → Prop where
  | str {text : String} {time : Timestamp} {offset : Int}
      (read : Timestamp.readDateTime? Timestamp.readZone? text.toList = some (.time time))
      (apart : time.offset = some offset) (outside : ¬time.WithinYears) : BeyondYears (.str text)

/-- A description of a notification with a number, a time or a text that the table cannot
hold. -/
inductive BeyondTable : Json → Prop where
  | id {fields : Fields} (beyond : (fields.getD "id").BeyondWord) : BeyondTable (.obj fields)
  | repo {fields part : Fields} (given : fields.getD "repo" = .obj part)
      (beyond : (part.getD "id").BeyondWord) : BeyondTable (.obj fields)
  | time {fields : Fields} {key : String}
      (known : key ∈ ["created_at", "updated_at", "last_read_at"])
      (beyond : (fields.getD key).BeyondYears) : BeyondTable (.obj fields)
  | text {fields : Fields} {key : String} {text : Text.Halved}
      (known : key ∈ ["github_id", "reason", "url", "web_url"])
      (half : fields.getD key = .halved text) : BeyondTable (.obj fields)
  | subjectText {fields part : Fields} {key : String} {text : Text.Halved}
      (given : fields.getD "subject" = .obj part)
      (known : key ∈ ["title", "url", "type", "state", "author"])
      (half : part.getD key = .halved text) : BeyondTable (.obj fields)
  | repoText {fields part : Fields} {key : String} {text : Text.Halved}
      (given : fields.getD "repo" = .obj part) (known : key ∈ ["name", "owner", "repo_url"])
      (half : part.getD key = .halved text) : BeyondTable (.obj fields)

end Json

/-- A number without a fraction is taken only up to 64 bits. -/
theorem Schema.fits_of_wholeNumber {value : Binary64} {whole : Int}
    (passed : wholeNumber value = .valid whole) : Width.fits64 whole = true := by
  rw [wholeNumber] at passed
  split at passed
  · cases passed
  · split at passed
    · cases passed
    · split at passed
      · next small =>
          cases passed
          rw [Width.fits64_iff]
          simp only [Nat.pow_eq] at small
          omega
      · cases passed

theorem Schema.fits_iff_of_integer {value : Json} {number : Int}
    (passed : integer value = .valid number) :
    Width.fits64 number = true ↔ ¬value.BeyondWord := by
  cases value with
  | int value =>
      cases passed
      constructor
      · rintro fits ⟨beyond⟩
        rw [fits] at beyond
        cases beyond
      · intro within
        by_contra misfit
        exact within (.int (Bool.eq_false_iff.2 misfit))
  | bool value =>
      cases passed
      exact iff_of_true (by cases value <;> decide) nofun
  | real value => exact iff_of_true (fits_of_wholeNumber passed) nofun
  | str text =>
      rw [integer] at passed
      split at passed
      · next read =>
          cases passed
          constructor
          · rintro fits (_ | ⟨again, beyond⟩)
            cases read.symm.trans again
            rw [fits] at beyond
            cases beyond
          · intro within
            by_contra misfit
            exact within (.str read (Bool.eq_false_iff.2 misfit))
      · cases passed
      · cases passed
  | null | halved text | moment moment | arr items | obj fields => cases passed

theorem Schema.ofReading_eq_valid {reading : Timestamp.Reading} {moment : Timestamp} :
    time.ofReading reading = .valid moment ↔ reading = .time moment := by
  cases reading <;> simp [time.ofReading, Checked.fault]

/-- Outside the years are only dates on a clock apart from UTC. -/
theorem Schema.withinYears_iff_of_time {value : Json} {moment : Timestamp}
    (passed : time value = .valid moment) : moment.WithinYears ↔ ¬value.BeyondYears := by
  cases value with
  | str text =>
      have read : Timestamp.ofFieldText text = .time moment := ofReading_eq_valid.1 passed
      constructor
      · rintro within ⟨again, apart, outside⟩
        rw [Timestamp.ofFieldText, again] at read
        cases read
        exact outside within
      · intro inside
        by_contra outside
        cases zone : moment.offset with
        | none => exact outside (Timestamp.withinYears_of_naive zone)
        | some offset =>
            exact inside
              (.str (Timestamp.readDateTime?_of_ofFieldText read outside) zone outside)
  | int count =>
      refine iff_of_true (Timestamp.withinYears_of_utc ?_) (by rintro ⟨⟩)
      rw [time] at passed
      split at passed
      · have read := ofReading_eq_valid.1 passed
        cases found : Timestamp.ofCount? count with
        | none => simp [Timestamp.ofFieldInt, found] at read
        | some reading =>
            rw [Timestamp.ofFieldInt, found, Option.getD_some] at read
            exact Timestamp.utc_of_ofCount? (read ▸ found)
      · cases passed
  | real count =>
      refine iff_of_true (Timestamp.withinYears_of_utc ?_) (by rintro ⟨⟩)
      have read := ofReading_eq_valid.1 passed
      cases found : Timestamp.ofRealCount? count with
      | none => simp [Timestamp.ofFieldReal, found] at read
      | some reading =>
          rw [Timestamp.ofFieldReal, found, Option.getD_some] at read
          exact Timestamp.utc_of_ofRealCount? (read ▸ found)
  | null | bool value | halved text | moment moment | arr items | obj fields => cases passed

/-! ## Notifications beyond the table -/

namespace Schema.Stands

variable {value : Json}

theorem fits_iff {number : Option Int} (stands : Stands integer value number) :
    (∀ given ∈ number, Width.fits64 given = true) ↔ ¬value.BeyondWord := by
  cases stands with
  | nothing => exact iff_of_true (by simp) nofun
  | given _ passed => simpa using fits_iff_of_integer passed

theorem withinYears_iff {moment : Option Timestamp} (stands : Stands time value moment) :
    (∀ given ∈ moment, given.WithinYears) ↔ ¬value.BeyondYears := by
  cases stands with
  | nothing => exact iff_of_true (by simp) nofun
  | given _ passed => simpa using withinYears_iff_of_time passed

end Schema.Stands

namespace Notification

variable {record : Notification} {fields : Json.Fields}

theorem DescribedBy.timely_iff (described : record.DescribedBy fields) :
    record.Timely ↔ ∀ key ∈ ["created_at", "updated_at", "last_read_at"],
      ¬(fields.getD key).BeyondYears := by
  simp only [List.forall_mem_cons, List.not_mem_nil, false_imp_iff, implies_true, and_true,
    ← described.createdAt.withinYears_iff, ← described.updatedAt.withinYears_iff,
    ← described.lastReadAt.withinYears_iff]
  exact ⟨fun timely => ⟨timely.createdAt, timely.updatedAt, timely.lastReadAt⟩,
    fun ⟨created, updated, lastRead⟩ => ⟨created, updated, lastRead⟩⟩

theorem DescribedBy.fits_repo_iff (described : record.DescribedBy fields) :
    (∀ id ∈ record.repo.id, Width.fits64 id = true) ↔
      ∀ part : Json.Fields, fields.getD "repo" = .obj part → ¬(part.getD "id").BeyondWord := by
  obtain ⟨part, found, repo⟩ := described.repo
  rw [repo.id.fits_iff]
  generalize fields.getD "repo" = value at found
  cases found with
  | fields => simp
  | empty missing =>
      have absent : ¬(Json.Fields.getD [] "id").BeyondWord := by
        rintro ⟨⟩
      refine iff_of_true absent ?_
      rintro part rfl
      cases part with
      | nil => exact absent
      | cons => cases missing

/-- Among some fields no text that ends in a column has a half. -/
theorem halvedColumns_eq_nil_iff {columns : List (String × String)} :
    halvedColumns fields columns = [] ↔
      ∀ key ∈ columns.map Prod.fst, ∀ text, fields.getD key ≠ .halved text := by
  rw [halvedColumns, List.filterMap_eq_nil_iff, List.forall_mem_map]
  refine forall₂_congr fun column _ => ?_
  cases fields.getD column.1 <;> simp

/-- What is said of every value of a part is said of the object that gives it. -/
theorem forall_part_iff {value : Json} {part : Json.Fields} (found : Json.Part value part)
    {keys : List String} :
    (∀ key ∈ keys, ∀ text, part.getD key ≠ .halved text) ↔
      ∀ given : Json.Fields, value = .obj given →
        ∀ key ∈ keys, ∀ text, given.getD key ≠ .halved text := by
  cases found with
  | fields => simp
  | empty missing =>
      refine iff_of_true (fun _ _ _ => nofun) ?_
      rintro given rfl
      cases given with
      | nil => exact fun _ _ _ => nofun
      | cons => cases missing

theorem DescribedBy.halvedTexts_eq_nil_iff (described : record.DescribedBy fields) :
    halvedTexts fields = [] ↔
      (∀ key ∈ ["github_id", "reason", "url", "web_url"], ∀ text,
        fields.getD key ≠ .halved text) ∧
      (∀ part : Json.Fields, fields.getD "subject" = .obj part →
        ∀ key ∈ ["title", "url", "type", "state", "author"], ∀ text,
          part.getD key ≠ .halved text) ∧
      ∀ part : Json.Fields, fields.getD "repo" = .obj part →
        ∀ key ∈ ["name", "owner", "repo_url"], ∀ text, part.getD key ≠ .halved text := by
  obtain ⟨_, subject, _⟩ := described.subject
  obtain ⟨_, repo, _⟩ := described.repo
  rw [halvedTexts, payloadPart_eq_ok.2 subject, payloadPart_eq_ok.2 repo,
    List.append_eq_nil_iff, List.append_eq_nil_iff, halvedColumns_eq_nil_iff,
    halvedColumns_eq_nil_iff, halvedColumns_eq_nil_iff, forall_part_iff subject,
    forall_part_iff repo, and_assoc]
  rfl

/-- A notification can be stored unless its description is beyond the table. -/
theorem DescribedBy.storable_iff (described : record.DescribedBy fields) :
    (record.Timely ∧ record.Fits) ∧ halvedTexts fields = [] ↔
      ¬(Json.obj fields).BeyondTable := by
  rw [described.timely_iff, described.halvedTexts_eq_nil_iff]
  constructor
  · rintro ⟨⟨timely, id, repo⟩, plain, ofSubject, ofRepo⟩ beyond
    cases beyond with
    | id beyond => exact (fits_iff_of_integer described.id).1 id beyond
    | repo given beyond => exact described.fits_repo_iff.1 repo _ given beyond
    | time known beyond => exact timely _ known beyond
    | text known half => exact plain _ known _ half
    | subjectText given known half => exact ofSubject _ given _ known _ half
    | repoText given known half => exact ofRepo _ given _ known _ half
  · intro within
    refine ⟨⟨fun key known beyond => within (.time known beyond), ?_, ?_⟩,
      fun key known text half => within (.text known half),
      fun part given key known text half => within (.subjectText given known half),
      fun part given key known text half => within (.repoText given known half)⟩
    · exact (fits_iff_of_integer described.id).2 fun beyond => within (.id beyond)
    · exact described.fits_repo_iff.2 fun part given beyond => within (.repo given beyond)

end Notification

/-! ## Failures of a replacement -/

theorem Timestamp.stored_eq_error {time : Timestamp} {error : Error}
    (failed : time.stored = .error error) : error = .overflow .time := by
  rw [stored] at failed
  split at failed <;> cases failed
  rfl

theorem Timestamp.stored?_eq_error {time : Option Timestamp} {error : Error}
    (failed : stored? time = .error error) : error = .overflow .time := by
  cases time with
  | none => cases failed
  | some given =>
      cases outcome : given.stored with
      | ok text => simp [stored?, outcome] at failed
      | error cause =>
          obtain rfl := stored_eq_error outcome
          simpa [stored?, outcome, eq_comm] using failed

theorem Notification.toRow_eq_error {record : Notification} {now : Timestamp} {error : Error}
    (failed : record.toRow now = .error error) : error = .overflow .time := by
  rcases Outcome.bind_eq_error.1 failed with failed | ⟨_, _, failed⟩
  · exact Timestamp.stored?_eq_error failed
  rcases Outcome.bind_eq_error.1 failed with failed | ⟨_, _, failed⟩
  · exact Timestamp.stored?_eq_error failed
  rcases Outcome.bind_eq_error.1 failed with failed | ⟨_, _, failed⟩
  · exact Timestamp.stored?_eq_error failed
  rcases Outcome.bind_eq_error.1 failed with failed | ⟨_, _, failed⟩
  · exact Timestamp.stored_eq_error failed
  · cases failed

/-- A notification that has no row has a time that cannot be written. -/
theorem Notification.Received.toRow_eq_error {received : Received} {now : Timestamp}
    {error : Error} (failed : received.toRow now = .error error) : error = .overflow .time := by
  obtain failed | ⟨_, _, failed⟩ := Outcome.bind_eq_error.1 failed
  · exact Notification.toRow_eq_error failed
  · cases failed

namespace Transaction

variable {store after : Store} {error : Error}

theorem isTyped_of_writeMarked {rows : List (Row × List (String × Text.Halved))}
    (failed : (rows.forM fun row => writeMarked row.1 row.2).run store = (.error error, after)) :
    error.isTyped = false := by
  induction rows generalizing store with
  | nil => cases failed
  | cons row rest ih =>
      obtain failed | ⟨_, between, _, failed⟩ := Work.bind_eq_error failed
      · rw [run_writeMarked] at failed
        split at failed <;> cases failed
        next found => exact Row.isTyped_of_fault? found
      · exact ih failed

theorem recordSync_eq_error {resource : String} {time : Timestamp} {said : Option String}
    (failed : (recordSync resource time said).run store = (.error error, after)) :
    error = .overflow .time := by
  obtain failed | ⟨_, _, _, failed⟩ := Work.bind_eq_error failed
  · exact Timestamp.stored_eq_error (Prod.mk.inj failed).1
  · cases failed

theorem commit_eq_error {α : Type} {work : Transaction α} {file : StoreFile}
    (failed : (commit work).run (.intact store) = (.error error, file)) :
    ∃ changed, work.run store = (.error error, changed) := by
  simp only [commit, Work.run_mk] at failed
  split at failed
  · cases failed
  · next changed result =>
      cases failed
      exact ⟨changed, result⟩

end Transaction

namespace Store

variable {store : Store} {now : Timestamp}

/-- A replacement in an intact file fails only with a part that cannot be written. -/
theorem isTyped_of_replaceReceived {received : List Notification.Received} {file : StoreFile}
    {error : Error}
    (failed : (replaceReceived now received).run (.intact store) = (.error error, file)) :
    error.isTyped = false := by
  obtain failed | ⟨rows, between, made, failed⟩ := Work.bind_eq_error failed
  · rw [Work.run_mapM_lift] at failed
    obtain ⟨each, _, failed⟩ := Outcome.mapM_eq_error (Prod.mk.inj failed).1
    obtain rfl := Notification.Received.toRow_eq_error failed
    rfl
  · rw [Work.run_mapM_lift] at made
    obtain ⟨_, rfl⟩ := Prod.mk.inj made
    obtain failed | ⟨_, _, _, failed⟩ := Work.bind_eq_error failed
    · obtain ⟨_, failed⟩ := Transaction.commit_eq_error failed
      obtain failed | ⟨_, _, _, failed⟩ := Work.bind_eq_error failed
      · cases failed
      · obtain failed | ⟨_, _, _, failed⟩ := Work.bind_eq_error failed
        · exact Transaction.isTyped_of_writeMarked failed
        · obtain rfl := Transaction.recordSync_eq_error failed
          rfl
    · cases failed

/-! ## Storing one notification -/

variable {record : Notification}

/-- A single item is the last of its key. -/
theorem isLast_singleton {α : Type} {key : α → Int} {item other : α} :
    Keyed.IsLast key [item] other ↔ other = item := by
  rw [← List.nil_append [item], Keyed.isLast_append_singleton]
  simp

theorem writable_singleton :
    (Call.replaceAll now [record]).Writable ↔
      now.WithinYears ∧ record.Timely ∧ record.Fits := by
  simp [Call.Writable, isLast_singleton]

/-- The notification of a row that a store holds is found by its number. -/
theorem run_get {row : Row} (sound : row.Sound) (held : row ∈ store.notifications.rows) :
    (get row.id).run (.intact store) = (.ok (some row.read), .intact store) := by
  have present : store.notifications.get? row.id = some row := by
    have known : (store.notifications.get? row.id).isSome = true :=
      List.find?_isSome.2 ⟨row, held, by simp⟩
    obtain ⟨other, found⟩ := Option.isSome_iff_exists.1 known
    have same : other.id = row.id := by simpa using List.find?_some found
    rw [found, Table.eq_of_id_eq (List.mem_of_find?_eq_some found) held same]
  have found : (Transaction.commit (Transaction.find row.id)).run (.intact store) =
      (.ok (some row), .intact store) := by
    apply Transaction.run_commit_ok
    have checked : (Transaction.requireFits (Width.fits64 row.id)).run store =
        (.ok (), store) := by
      rw [sound.fits_id]
      rfl
    rw [Transaction.find, Work.run_bind_ok checked, ← present]
    rfl
  rw [get, Work.run_bind_ok found]
  simp only [sound.ofRow_eq]
  rfl

/-- A notification that can be stored is stored alone and found by its number, read back as it
was. -/
theorem run_replaceAll_singleton (clock : now.WithinYears) (timely : record.Timely)
    (fits : record.Fits) (store : Store) :
    ∃ after read, (replaceAll now [record]).run (.intact store) = (.ok 1, .intact after) ∧
      (get record.id).run (.intact after) = (.ok (some read), .intact after) ∧
      record.ReadBack now read := by
  have storable : record.Storable :=
    ⟨fits.id, fits.repo, timely.createdAt, timely.updatedAt, timely.lastReadAt⟩
  obtain ⟨rows, text, rfl, done⟩ :=
    run_replaceAll clock (by simpa using storable : ∀ other ∈ [record], other.Storable) store
  have held : (record.onUtc now).written ∈ (store.replaced (latest
      ([record].map fun record => (record.onUtc now).written)) text).notifications.rows :=
    mem_ofRows_latest_written.2 ⟨record, isLast_singleton.2 rfl, rfl⟩
  refine ⟨_, record.onUtc now, done, ?_, timely.readBack_onUtc clock⟩
  have found := run_get (storable.sound clock) held
  rwa [Row.read_written (Notification.inUtc_onUtc record now)] at found

/-- What cannot be stored is refused with an error that is none of the expected ones. -/
theorem refused_of_not_storable {room : Nat} {clock : Timestamp} {payload : Json}
    {received : Notification.Received}
    (accepted : Notification.receive room clock payload = .ok received)
    (misfit : ¬((received.record.Timely ∧ received.record.Fits) ∧ received.halved = [])) :
    ∃ error, (replaceReceived now [received]).run (.intact store) =
      (.error error, .intact store) ∧ error.isTyped = false := by
  rcases ran : (replaceReceived now [received]).run (.intact store) with ⟨outcome, file⟩
  cases outcome with
  | error error =>
      obtain rfl := replaceReceived_run_error ran
      exact ⟨error, rfl, isTyped_of_replaceReceived ran⟩
  | ok count =>
      obtain ⟨rows, made, free, done⟩ := replaceReceived_eq_ok ran
      have plain := Notification.Received.halved_eq_nil accepted
        (fault?_of_isLast made free (isLast_singleton.2 rfl))
      have decided : Decided (replaceAll now [received.record]) (.intact store)
          (Call.replaceAll now [received.record]).Writable := decided_replaceAll
      obtain ⟨writable, _⟩ | ⟨_, error, failed⟩ := decided
      · exact absurd ⟨(writable_singleton.1 writable).2, plain⟩ misfit
      · cases failed.symm.trans done

/-- What the service sends and reading accepts is stored and read back, its times at the same
instants on the UTC clock, unless a number, a time or a text of it is beyond the table.  Then
the store is left as it was, and the error is none of those that the service is expected to
bring. -/
theorem received_stored_unless_beyondTable {clock : Timestamp} (utc : clock.offset = some 0)
    (within : now.WithinYears) (store : Store) {room : Nat} {payload : Json}
    {received : Notification.Received}
    (accepted : Notification.receive room clock payload = .ok received) :
    (¬payload.BeyondTable ∧ received.halved = [] ∧ ∃ after read,
      (replaceReceived now [received]).run (.intact store) = (.ok 1, .intact after) ∧
        (get received.record.id).run (.intact after) = (.ok (some read), .intact after) ∧
        received.record.ReadBack now read) ∨
    (payload.BeyondTable ∧ ∃ error,
      (replaceReceived now [received]).run (.intact store) = (.error error, .intact store) ∧
        error.isTyped = false) := by
  obtain ⟨fields, rfl, _, described, _, halved⟩ := (Notification.receive_eq_ok utc).1 accepted
  have storable_iff := described.storable_iff
  rw [← halved] at storable_iff
  by_cases beyond : (Json.obj fields).BeyondTable
  · exact .inr ⟨beyond, refused_of_not_storable accepted fun storable =>
      storable_iff.1 storable beyond⟩
  · obtain ⟨⟨timely, fits⟩, plain⟩ := storable_iff.2 beyond
    refine .inl ⟨beyond, plain, ?_⟩
    rw [replaceReceived_of_plain (by simpa using plain)]
    exact run_replaceAll_singleton within timely fits store

/-- A text that is the first half of a surrogate pair. -/
def loneHalf : Text.Halved :=
  ⟨[0xD800], by decide⟩

/-- Reading accepts a description, and the store refuses the notification with an error that is
none of the expected ones. -/
def AcceptedAndRefused (payload : Json) : Prop :=
  ∃ received error,
    Notification.receive Json.Room.usual.writing pagesClock payload = .ok received ∧
      (replaceReceived pagesClock [received]).run (.intact {}) = (.error error, .intact {}) ∧
      error.isTyped = false

theorem acceptedAndRefused_of_misfit {payload : Json} {received : Notification.Received}
    (accepted : Notification.receive Json.Room.usual.writing pagesClock payload = .ok received)
    (misfit : ¬((received.record.Timely ∧ received.record.Fits) ∧ received.halved = [])) :
    AcceptedAndRefused payload := by
  obtain ⟨error, refused, untyped⟩ := refused_of_not_storable accepted misfit
  exact ⟨received, error, accepted, refused, untyped⟩

/-- A number of 65 bits is accepted and cannot be stored, and so is a time before the year 1 and
a text with a half of a surrogate pair. -/
theorem received_and_refused :
    AcceptedAndRefused (.obj [("id", .int 9223372036854775808)]) ∧
      AcceptedAndRefused
        (.obj [("id", .int 1), ("created_at", .str "0001-01-01T00:00:00+01:00")]) ∧
      AcceptedAndRefused
        (.obj [("id", .int 1), ("subject", .obj [("title", .halved loneHalf)])]) := by
  let wide : Notification := { id := 9223372036854775808, fetchedAt := some pagesClock }
  -- the first moment of the calendar, on a clock that is ahead of UTC by an hour
  let ahead : Timestamp := ⟨0, some 3600000000, by decide⟩
  let early : Notification := { id := 1, createdAt := some ahead, fetchedAt := some pagesClock }
  let torn : Notification :=
    { id := 1, subject := { title := some loneHalf.shown }, fetchedAt := some pagesClock }
  refine ⟨@acceptedAndRefused_of_misfit _ ⟨wide, []⟩ rfl ?_,
    @acceptedAndRefused_of_misfit _ ⟨early, []⟩ rfl ?_,
    @acceptedAndRefused_of_misfit _ ⟨torn, [("subject_title", loneHalf)]⟩ rfl ?_⟩
  · exact fun storable => absurd storable.1.2.id (by decide)
  · intro storable
    have within : ahead.WithinYears := storable.1.1.createdAt _ rfl
    exact absurd within.1 (by decide)
  · exact fun storable => absurd storable.2 (by simp)

/-- Nothing in the sparse description of a notification is beyond the table. -/
theorem not_beyondTable_sparseFields : ¬(Json.obj Notification.sparseFields).BeyondTable := by
  intro beyond
  cases beyond with
  | id beyond =>
      have passed : integer (.str " 42 ") = .valid 42 := rfl
      exact (fits_iff_of_integer passed).1 (by decide) beyond
  | repo given | subjectText given | repoText given => cases given
  | time known beyond =>
      simp only [List.mem_cons, List.not_mem_nil, or_false] at known
      rcases known with rfl | rfl | rfl
      all_goals rcases beyond
  | text known half =>
      simp only [List.mem_cons, List.not_mem_nil, or_false] at known
      rcases known with rfl | rfl | rfl | rfl
      all_goals cases half

theorem sparse_payload_stored :
    pagesClock.offset = some 0 ∧ pagesClock.WithinYears ∧
      ∃ received, Notification.receive Json.Room.usual.writing pagesClock
          (.obj Notification.sparseFields) = .ok received ∧
        ∃ after read,
          (replaceReceived pagesClock [received]).run (.intact {}) = (.ok 1, .intact after) ∧
            (get received.record.id).run (.intact after) = (.ok (some read), .intact after) ∧
            received.record.ReadBack pagesClock read := by
  have utc : pagesClock.offset = some 0 := rfl
  have within := Timestamp.withinYears_of_utc utc
  obtain ⟨record, described, fetched⟩ :=
    Notification.acceptable_sparseFields.exists_describedBy pagesClock
  have accepted : Notification.receive Json.Room.usual.writing pagesClock
      (.obj Notification.sparseFields) =
        .ok ⟨record, Notification.halvedTexts Notification.sparseFields⟩ :=
    (Notification.receive_eq_ok utc).2 ⟨_, rfl, rfl, described, fetched, rfl⟩
  obtain ⟨_, _, stored⟩ | ⟨beyond, _⟩ :=
    received_stored_unless_beyondTable utc within {} accepted
  · exact ⟨utc, within, _, accepted, stored⟩
  · exact absurd beyond not_beyondTable_sparseFields

end Store

end Triage
