import Mathlib.Tactic.MkIffOfInductiveProp
import Triage.Notification.Payload
import Triage.Proofs.Json.Reading
import Triage.Proofs.Notification.RoundTrip

/-!
# What the service may send

Whatever value the service sends for a notification, reading it gives a notification or an
error that says what is wrong with the value.  It gives one exactly if the number is an
integer and every other field is absent, null or of a kind that the field takes; each field
of the result is what its value stands for.  Only a value that no text gives may be too
deep, or have too many digits, to be written.
-/

namespace Triage

/-! ## Checks that pass -/

namespace Schema

variable {α β : Type}

namespace Checked

@[simp] theorem map_eq_valid {image : α → β} {checked : Checked α} {result : β} :
    image <$> checked = .valid result ↔ ∃ value, checked = .valid value ∧ image value = result := by
  change checked.map image = _ ↔ _
  cases checked <;> simp [map]

@[simp] theorem seq_eq_valid {images : Checked (α → β)} {checked : Checked α} {result : β} :
    images <*> checked = .valid result ↔
      ∃ image value, images = .valid image ∧ checked = .valid value ∧ image value = result := by
  change images.apply checked = _ ↔ _
  cases images <;> cases checked <;> simp [apply]

@[simp] theorem under_eq_valid {key : String} {checked : Checked α} {result : α} :
    checked.under key = .valid result ↔ checked = .valid result := by
  cases checked <;> simp [under]

@[simp] theorem toExcept_eq_ok {model : String} {checked : Checked α} {result : α} :
    checked.toExcept model = .ok result ↔ checked = .valid result := by
  cases checked <;> simp [toExcept]

end Checked

/-- What a field holds for a value: nothing for null, else what a check makes of it. -/
inductive Stands (check : Json → Checked α) : Json → Option α → Prop where
  | nothing : Stands check .null none
  | given {value : Json} {result : α} (differs : value ≠ .null)
      (passed : check value = .valid result) : Stands check value (some result)

theorem nullable_eq_valid {check : Json → Checked α} {value : Json} {result : Option α} :
    nullable check value = .valid result ↔ Stands check value result := by
  constructor
  · fun_cases nullable check value with
    | case1 =>
        intro passed
        cases passed
        exact .nothing
    | case2 value differs =>
        intro passed
        obtain ⟨found, accepted, rfl⟩ := Checked.map_eq_valid.1 passed
        exact .given differs accepted
  · intro stands
    cases stands with
    | nothing => rfl
    | given differs passed => simp [nullable, passed]

/-- A field takes a value if it is null or passes the check. -/
def Takes (check : Json → Checked α) (value : Json) : Prop :=
  value = .null ∨ ∃ result, check value = .valid result

theorem exists_stands_iff {check : Json → Checked α} {value : Json} :
    (∃ result, Stands check value result) ↔ Takes check value := by
  constructor
  · rintro ⟨_, ⟨⟩ | ⟨_, passed⟩⟩
    · exact .inl rfl
    · exact .inr ⟨_, passed⟩
  · intro takes
    by_cases null : value = .null
    · subst null
      exact ⟨none, .nothing⟩
    · obtain ⟨result, passed⟩ := takes.resolve_left null
      exact ⟨some result, .given null passed⟩

/-- The fields of an object take the values under the given keys. -/
def TakesEach (check : Json → Checked α) (fields : Json.Fields) (keys : List String) : Prop :=
  ∀ key ∈ keys, Takes check (fields.getD key)

theorem takesEach_nil {check : Json → Checked α} {fields : Json.Fields} :
    TakesEach check fields [] := by
  simp [TakesEach]

theorem takesEach_cons {check : Json → Checked α} {fields : Json.Fields} {key : String}
    {keys : List String} :
    TakesEach check fields (key :: keys) ↔
      Takes check (fields.getD key) ∧ TakesEach check fields keys :=
  List.forall_mem_cons

/-- Whatever is absent is null, which every field takes. -/
theorem takesEach_noFields {check : Json → Checked α} {keys : List String} :
    TakesEach check [] keys :=
  fun _ _ => .inl rfl

end Schema

open Schema

/-! ## Parts -/

/-- The fields of a part: those of an object, and none of a value that does not count as
given. -/
inductive Json.Part : Json → Json.Fields → Prop where
  | fields (part : Json.Fields) : Part (.obj part) part
  | empty {value : Json} (missing : value.truthy = false) : Part value []

/-- Every field of a subject is what its value stands for. -/
@[mk_iff] structure Subject.DescribedBy (subject : Subject) (part : Json.Fields) : Prop where
  title : Stands text (part.getD "title") subject.title
  url : Stands text (part.getD "url") subject.url
  kind : Stands text (part.getD "type") subject.kind
  state : Stands text (part.getD "state") subject.state
  author : Stands text (part.getD "author") subject.author

/-- Every field of a repository is what its value stands for. -/
@[mk_iff] structure Repo.DescribedBy (repo : Repo) (part : Json.Fields) : Prop where
  id : Stands integer (part.getD "id") repo.id
  name : Stands text (part.getD "name") repo.name
  owner : Stands text (part.getD "owner") repo.owner
  url : Stands text (part.getD "repo_url") repo.url

/-- The text of a value that is not null. -/
def Json.shown? : Json → Option String
  | .null => none
  | value => some value.plainText

/-- Every field of a notification that belongs to no part is what its value stands for.  A flag
counts as the value does, and null leaves the default. -/
@[mk_iff] structure Notification.PlainlyDescribedBy (record : Notification)
    (fields : Json.Fields) : Prop where
  id : integer (fields.getD "id") = .valid record.id
  githubId : (fields.getD "github_id").shown? = record.githubId
  reason : Stands text (fields.getD "reason") record.reason
  flags : ∀ flag : Flag,
    record.flags.get flag = (fields.getD flag.name).flagOr (Flags.get {} flag)
  url : Stands text (fields.getD "url") record.url
  webUrl : Stands text (fields.getD "web_url") record.webUrl
  createdAt : Stands time (fields.getD "created_at") record.createdAt
  updatedAt : Stands time (fields.getD "updated_at") record.updatedAt
  lastReadAt : Stands time (fields.getD "last_read_at") record.lastReadAt

/-- Every field of a notification and of its parts is what its value stands for, apart from
the time when it was fetched. -/
structure Notification.DescribedBy (record : Notification) (fields : Json.Fields) : Prop
    extends record.PlainlyDescribedBy fields where
  subject : ∃ part, Json.Part (fields.getD "subject") part ∧ record.subject.DescribedBy part
  repo : ∃ part, Json.Part (fields.getD "repo") part ∧ record.repo.DescribedBy part

namespace Notification

theorem payloadPart_eq_ok {fields part : Json.Fields} {key : String} :
    payloadPart fields key = .ok part ↔ Json.Part (fields.getD key) part := by
  rw [payloadPart]
  generalize fields.getD key = value
  constructor
  · intro found
    split at found
    · cases found
      exact .fields _
    · split at found
      · cases found
      · next missing =>
          cases found
          exact .empty (Bool.eq_false_iff.2 missing)
  · rintro (_ | missing)
    · rfl
    · cases value with
      | obj fields =>
          cases fields with
          | nil => rfl
          | cons => cases missing
      | _ => simp [missing]

/-- A field of renamed columns has the value of the column that its name stands for. -/
theorem lookup_renamed (columns : Json.Fields) (names : List (String × String)) (name : String) :
    (renamed columns names).lookup name = (names.lookup name).map columns.getD := by
  rw [renamed]
  induction names with
  | nil => rfl
  | cons entry rest ih =>
      rw [List.map_cons, List.lookup_cons, List.lookup_cons, ih]
      cases name == entry.1 <;> rfl

/-- A subject's fields are read under the names that the service gives them. -/
theorem subject_ofJson_eq_ok {part : Json.Fields} {subject : Subject} :
    Subject.ofJson (.obj (renamed part
        (["title", "url", "type", "state", "author"].map fun name => (name, name)))) =
      .ok subject ↔ subject.DescribedBy part := by
  obtain ⟨title, url, kind, state, author⟩ := subject
  simp [Subject.ofJson, object, Subject.check, Schema.optional, withDefault, Json.Fields.get?,
    List.lookup_cons, lookup_renamed, nullable_eq_valid, Subject.describedBy_iff, and_assoc]

theorem repo_ofJson_eq_ok {part : Json.Fields} {repo : Repo} :
    Repo.ofJson (.obj (renamed part
        [("id", "id"), ("name", "name"), ("owner", "owner"), ("url", "repo_url")])) =
      .ok repo ↔ repo.DescribedBy part := by
  obtain ⟨id, name, owner, url⟩ := repo
  simp [Repo.ofJson, object, Repo.check, Schema.optional, withDefault, Json.Fields.get?,
    List.lookup_cons, lookup_renamed, nullable_eq_valid, Repo.describedBy_iff, and_assoc]

theorem payloadSubject_eq_ok {fields : Json.Fields} {subject : Subject} :
    payloadSubject fields = .ok subject ↔
      ∃ part, Json.Part (fields.getD "subject") part ∧ subject.DescribedBy part := by
  simp only [payloadSubject, Outcome.bind_eq_ok, payloadPart_eq_ok, ← subject_ofJson_eq_ok]
  refine exists_congr fun part => and_congr_right fun _ => ?_
  cases Subject.ofJson _ <;> simp

theorem payloadRepo_eq_ok {fields : Json.Fields} {repo : Repo} :
    payloadRepo fields = .ok repo ↔
      ∃ part, Json.Part (fields.getD "repo") part ∧ repo.DescribedBy part := by
  simp only [payloadRepo, Outcome.bind_eq_ok, payloadPart_eq_ok, ← repo_ofJson_eq_ok]
  refine exists_congr fun part => and_congr_right fun _ => ?_
  cases Repo.ofJson _ <;> simp

theorem nullable_payloadReference (fields : Json.Fields) :
    nullable text (payloadReference fields) = .valid (fields.getD "github_id").shown? := by
  rw [payloadReference]
  cases fields.getD "github_id" <;> rfl

theorem flag_payloadFlag (fields : Json.Fields) (flag : Flag) :
    Schema.flag (payloadFlag fields flag) =
      .valid ((fields.getD flag.name).flagOr (Flags.get {} flag)) := by
  rw [payloadFlag]
  cases fields.getD flag.name <;> rfl

/-- The flags that the values of their names stand for. -/
def payloadFlags (fields : Json.Fields) : Flags where
  unread := (fields.getD "unread").flagOr true
  archived := (fields.getD "archived").flagOr false
  starred := (fields.getD "starred").flagOr false
  muted := (fields.getD "muted").flagOr false

theorem get_payloadFlags (fields : Json.Fields) (flag : Flag) :
    (payloadFlags fields).get flag = (fields.getD flag.name).flagOr (Flags.get {} flag) := by
  cases flag <;> rfl

theorem flags_check_payloadFields (fields : Json.Fields) :
    Flags.check (payloadFields fields) = .valid (payloadFlags fields) := by
  have found (flag : Flag) :
      (payloadFields fields).get? flag.name = some (payloadFlag fields flag) := by
    cases flag <;> rfl
  have unread := found .unread
  have archived := found .archived
  have starred := found .starred
  have muted := found .muted
  simp only [Flag.name] at unread archived starred muted
  simp only [Flags.check, withDefault, unread, archived, starred, muted, flag_payloadFlag]
  rfl

/-- The fields that belong to no part are checked one by one. -/
theorem checkParts_payloadFields {fields : Json.Fields} {subject : Subject} {repo : Repo}
    {record : Notification} :
    checkParts (payloadFields fields) (.valid subject) (.valid repo) = .valid record ↔
      record.PlainlyDescribedBy fields ∧ subject = record.subject ∧ repo = record.repo ∧
        record.fetchedAt = none := by
  obtain ⟨id, githubId, reason, flags, url, webUrl, _, _, createdAt, updatedAt, lastReadAt,
    fetchedAt⟩ := record
  have same : (∀ flag : Flag, flags.get flag =
      (fields.getD flag.name).flagOr (Flags.get {} flag)) ↔ payloadFlags fields = flags := by
    simp only [← get_payloadFlags, eq_comm]
    exact ⟨Flags.ext_get, fun equal flag => by rw [equal]⟩
  rw [plainlyDescribedBy_iff, same, checkParts, flags_check_payloadFields]
  simp only [required, Json.Fields.get?, payloadFields, List.map_cons, List.map_nil, Flag.name,
    Flag.all, List.lookup_append, lookup_renamed, List.lookup_cons_self, Option.map_some,
    List.lookup_cons, String.reduceBEq, List.lookup_nil, Option.or_none, Schema.optional,
    withDefault, Option.map_none, Option.or_some, Option.getD_none, nullable_payloadReference,
    Checked.under_valid, Option.or_self, Checked.seq_eq_valid, Checked.map_eq_valid,
    Checked.under_eq_valid, Checked.valid.injEq, exists_and_left, ↓existsAndEq, true_and,
    exists_exists_and_eq_and, nullable_eq_valid, exists_exists_and_exists_and_eq_and, and_true,
    and_assoc, mk.injEq, and_congr_right_iff]
  tauto

theorem PlainlyDescribedBy.fetched {record : Notification} {fields : Json.Fields}
    (plain : record.PlainlyDescribedBy fields) (time : Option Timestamp) :
    { record with fetchedAt := time }.PlainlyDescribedBy fields :=
  { plain with }

/-- The fields that belong to no part give a notification once the parts are known. -/
theorem finish_eq_ok {now : Timestamp} {fields : Json.Fields} {subject : Subject} {repo : Repo}
    {record : Notification} :
    (match (checkParts (payloadFields fields) (.valid subject) (.valid repo)).toExcept
        "Notification" with
      | .ok checked => .ok { checked with fetchedAt := some now }
      | .error failure => .error (.invalid failure) : Except RecordFault Notification) =
        .ok record ↔
      record.PlainlyDescribedBy fields ∧ subject = record.subject ∧ repo = record.repo ∧
        record.fetchedAt = some now := by
  constructor
  · intro finished
    split at finished
    · next checked accepted =>
        obtain ⟨plain, first, second, -⟩ :=
          checkParts_payloadFields.1 (Checked.toExcept_eq_ok.1 accepted)
        cases finished
        exact ⟨plain.fetched _, first, second, rfl⟩
    · cases finished
  · rintro ⟨plain, first, second, fetched⟩
    have accepted : checkParts (payloadFields fields) (.valid subject) (.valid repo) =
        .valid { record with fetchedAt := none } :=
      checkParts_payloadFields.2 ⟨plain.fetched none, first, second, rfl⟩
    rw [Checked.toExcept_eq_ok.2 accepted, ← fetched]

theorem payloadParts_eq_ok {fields : Json.Fields} {subject : Subject} {repo : Repo} :
    payloadParts fields = .ok (subject, repo) ↔
      payloadSubject fields = .ok subject ∧ payloadRepo fields = .ok repo := by
  simp only [payloadParts, Outcome.bind_eq_ok]
  constructor
  · rintro ⟨_, first, _, second, same⟩
    cases same
    exact ⟨first, second⟩
  · rintro ⟨first, second⟩
    exact ⟨_, first, _, second, rfl⟩

/-- An object gives a notification exactly if the notification is what the object
describes. -/
theorem ofFields_eq_ok {now : Timestamp} {fields : Json.Fields} {record : Notification} :
    ofFields now fields = .ok record ↔
      record.DescribedBy fields ∧ record.fetchedAt = some now := by
  rw [ofFields, Outcome.bind_eq_ok]
  constructor
  · rintro ⟨⟨subject, repo⟩, parts, finished⟩
    obtain ⟨first, second⟩ := payloadParts_eq_ok.1 parts
    obtain ⟨plain, rfl, rfl, fetched⟩ := finish_eq_ok.1 finished
    exact ⟨⟨plain, payloadSubject_eq_ok.1 first, payloadRepo_eq_ok.1 second⟩, fetched⟩
  · rintro ⟨⟨plain, subject, repo⟩, fetched⟩
    exact ⟨(record.subject, record.repo), payloadParts_eq_ok.2
      ⟨payloadSubject_eq_ok.2 subject, payloadRepo_eq_ok.2 repo⟩,
      finish_eq_ok.2 ⟨plain, rfl, rfl, fetched⟩⟩

/-! ## What is accepted -/

/-- An object describes a subject exactly if every field takes its value. -/
theorem exists_subject_iff {part : Json.Fields} :
    (∃ subject : Subject, subject.DescribedBy part) ↔
      TakesEach text part ["title", "url", "type", "state", "author"] := by
  simp only [takesEach_cons, takesEach_nil, and_true, ← exists_stands_iff]
  constructor
  · rintro ⟨subject, title, url, kind, state, author⟩
    exact ⟨⟨_, title⟩, ⟨_, url⟩, ⟨_, kind⟩, ⟨_, state⟩, _, author⟩
  · rintro ⟨⟨title, first⟩, ⟨url, second⟩, ⟨kind, third⟩, ⟨state, fourth⟩, author, fifth⟩
    exact ⟨⟨title, url, kind, state, author⟩, first, second, third, fourth, fifth⟩

theorem exists_repo_iff {part : Json.Fields} :
    (∃ repo : Repo, repo.DescribedBy part) ↔
      Takes integer (part.getD "id") ∧ TakesEach text part ["name", "owner", "repo_url"] := by
  simp only [takesEach_cons, takesEach_nil, and_true, ← exists_stands_iff]
  constructor
  · rintro ⟨repo, id, name, owner, url⟩
    exact ⟨⟨_, id⟩, ⟨_, name⟩, ⟨_, owner⟩, _, url⟩
  · rintro ⟨⟨id, first⟩, ⟨name, second⟩, ⟨owner, third⟩, url, fourth⟩
    exact ⟨⟨id, name, owner, url⟩, first, second, third, fourth⟩

/-- The number is an integer, and every other field is absent, null or of a kind that the
field takes.  A flag and the reference number take any value, a subject or a repository takes
what counts as empty. -/
structure Acceptable (fields : Json.Fields) : Prop where
  id : ∃ number, integer (fields.getD "id") = .valid number
  texts : TakesEach text fields ["reason", "url", "web_url"]
  times : TakesEach time fields ["created_at", "updated_at", "last_read_at"]
  subject : ∃ part, Json.Part (fields.getD "subject") part ∧
    TakesEach text part ["title", "url", "type", "state", "author"]
  repo : ∃ part, Json.Part (fields.getD "repo") part ∧ Takes integer (part.getD "id") ∧
    TakesEach text part ["name", "owner", "repo_url"]

theorem DescribedBy.acceptable {record : Notification} {fields : Json.Fields}
    (described : record.DescribedBy fields) : Acceptable fields where
  id := ⟨_, described.id⟩
  texts := by
    simp only [takesEach_cons, takesEach_nil, and_true, ← exists_stands_iff]
    exact ⟨⟨_, described.reason⟩, ⟨_, described.url⟩, _, described.webUrl⟩
  times := by
    simp only [takesEach_cons, takesEach_nil, and_true, ← exists_stands_iff]
    exact ⟨⟨_, described.createdAt⟩, ⟨_, described.updatedAt⟩, _, described.lastReadAt⟩
  subject := described.subject.imp fun _ found =>
    ⟨found.1, exists_subject_iff.1 ⟨_, found.2⟩⟩
  repo := described.repo.imp fun _ found => ⟨found.1, exists_repo_iff.1 ⟨_, found.2⟩⟩

/-- What is accepted describes a notification, which may have been fetched at any time. -/
theorem Acceptable.exists_describedBy {fields : Json.Fields} (acceptable : Acceptable fields)
    (fetched : Timestamp) :
    ∃ record : Notification, record.DescribedBy fields ∧ record.fetchedAt = some fetched := by
  obtain ⟨⟨number, id⟩, texts, times, ⟨part, given, subject⟩, ⟨place, found, repo⟩⟩ := acceptable
  simp only [takesEach_cons, takesEach_nil, and_true, ← exists_stands_iff]
    at texts times
  obtain ⟨⟨reason, first⟩, ⟨url, second⟩, webUrl, third⟩ := texts
  obtain ⟨⟨createdAt, fourth⟩, ⟨updatedAt, fifth⟩, lastReadAt, sixth⟩ := times
  obtain ⟨subject, seventh⟩ := exists_subject_iff.2 subject
  obtain ⟨repo, eighth⟩ := exists_repo_iff.2 repo
  exact ⟨{ id := number
           githubId := (fields.getD "github_id").shown?
           reason, url, webUrl, subject, repo, createdAt, updatedAt, lastReadAt
           flags := payloadFlags fields
           fetchedAt := some fetched },
    { id, reason := first, url := second, webUrl := third, createdAt := fourth,
      updatedAt := fifth, lastReadAt := sixth, githubId := rfl, flags := get_payloadFlags fields,
      subject := ⟨part, given, seventh⟩, repo := ⟨place, found, eighth⟩ }, rfl⟩

/-! ## Defaults -/

variable {room : Nat} {clock : Timestamp} {payload : Json} {received : Received}

theorem receive_eq_ok (utc : clock.offset = some 0) :
    receive room clock payload = .ok received ↔
      ∃ fields, payload = .obj fields ∧ referenceFault? room fields = none ∧
        received.record.DescribedBy fields ∧ received.record.fetchedAt = some clock ∧
        received.halved = halvedTexts fields := by
  cases payload with
  | obj fields =>
      rw [receive_obj (Timestamp.toUtc?_of_utc utc)]
      constructor
      · intro accepted
        split at accepted
        · cases accepted
        · next reference =>
            split at accepted
            · next record found =>
                cases accepted
                obtain ⟨described, fetched⟩ := ofFields_eq_ok.1 found
                exact ⟨fields, rfl, reference, described, fetched, rfl⟩
            · cases accepted
      · rintro ⟨_, ⟨⟩, reference, described, fetched, halved⟩
        rw [reference, ofFields_eq_ok.2 ⟨described, fetched⟩, ← halved]
  | _ => simp [receive]

/-- On any clock the texts without bytes are those of the object. -/
theorem halved_of_receive (accepted : receive room clock payload = .ok received) :
    ∃ fields, payload = .obj fields ∧ received.halved = halvedTexts fields := by
  revert accepted
  fun_cases receive room clock payload with
  | case2 fields =>
      rintro ⟨⟩
      exact ⟨fields, rfl, rfl⟩
  | _ => nofun

/-- The fields of a notification whose number is a text, with a flag that is null, one that
counts as set, and a subject that counts as empty. -/
def sparseFields : Json.Fields :=
  [("id", .str " 42 "), ("unread", .null), ("starred", .int 2), ("subject", .arr []),
    ("reason", .str "mention"), ("updated_at", .int 86400)]

theorem acceptable_sparseFields : Acceptable sparseFields where
  id := ⟨42, rfl⟩
  texts := by
    simp only [takesEach_cons, takesEach_nil, and_true]
    exact ⟨.inr ⟨"mention", rfl⟩, .inl rfl, .inl rfl⟩
  times := by
    simp only [takesEach_cons, takesEach_nil, and_true]
    exact ⟨.inl rfl, .inr ⟨_, rfl⟩, .inl rfl⟩
  subject := ⟨[], .empty rfl, takesEach_noFields⟩
  repo := ⟨[], .empty rfl, .inl rfl, takesEach_noFields⟩

end Notification

end Triage
