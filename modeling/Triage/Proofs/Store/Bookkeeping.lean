import Triage.Proofs.Store.Atomic

/-!
# What is recorded of synchronisations

The time of the last synchronisation of a resource and its error are written by
different operations.  Over any run of a store, calls that fail among them, the time is
that of the last call that stamps the resource, and the error is what the last call
that tells anything of it told.
-/

namespace Triage

/-- Times on the UTC clock are told apart by their texts. -/
theorem Timestamp.eq_of_map_isoText {first second : Option Timestamp}
    (utc : Timestamp.InUtc? first) (utc' : Timestamp.InUtc? second)
    (same : first.map Timestamp.isoText = second.map Timestamp.isoText) : first = second := by
  cases first with
  | none =>
      cases second with
      | none => rfl
      | some other => cases same
  | some time =>
      cases second with
      | none => cases same
      | some other =>
          have equal := (Timestamp.isoText_eq_iff (utc time rfl) (utc' other rfl)).1
            (Option.some.inj same)
          obtain ⟨wall, offset, bound⟩ := time
          obtain ⟨wall', offset', bound'⟩ := other
          cases utc _ rfl
          cases utc' _ rfl
          rw [Timestamp.instant_utc, Timestamp.instant_utc, Int.natCast_inj] at equal
          cases equal
          rfl

namespace Store

/-! ## What a call says -/

namespace Call

/-- The time at which a call records a synchronisation of a resource. -/
def stamp? (resource : String) : Call → Option Timestamp
  | .replaceAll now _ => if resource = notificationsResource then some now else none
  | .upsert _ [] => none
  | .upsert now (_ :: _) => if resource = notificationsResource then some now else none
  | .patch _ _ _ => none
  | .markSynced now given _ => if columnText? given = some resource then some now else none
  | .markSyncError _ _ => none

/-- What a call tells of the error of a resource: nothing, that there is none, or which
one it is. -/
def word? (resource : String) : Call → Option (Option String)
  | .replaceAll _ _ => if resource = notificationsResource then some none else none
  | .upsert _ [] => none
  | .upsert _ (_ :: _) => if resource = notificationsResource then some none else none
  | .patch _ _ _ => none
  | .markSynced _ given error =>
      if columnText? given = some resource then some (columnText? error) else none
  | .markSyncError given error =>
      if columnText? given = some resource then some (columnText? error) else none

/-- What a call that succeeds makes of the record of a resource. -/
def Records (call : Call) (resource : String) (before after : Option SyncRecord) : Prop :=
  match call.stamp? resource, call.word? resource with
  | some now, some error =>
      ∃ utc, now.toUtc? = some utc ∧ after = some ⟨some utc.isoText, error⟩
  | none, some error => after = some ⟨before.bind (·.lastSync), error⟩
  | none, none => after = before
  -- Whatever stamps a resource also tells how it ended.
  | some _, none => False

end Call

/-- The time of the last call that stamps a resource. -/
def lastStamp (resource : String) (calls : List Call) : Option Timestamp :=
  (calls.filterMap (Call.stamp? resource)).getLast?

/-- The error that the last call that tells anything of it said. -/
def lastWord (resource : String) (calls : List Call) : Option String :=
  (calls.filterMap (Call.word? resource)).getLast?.join

/-! ## One call -/

section Records

variable {call : Call} {name : String} {now : Timestamp} {error : Option String}

/-- A call that stamps one resource leaves the records of the others. -/
theorem Call.records_of_stamp {utc : Timestamp} (moved : now.toUtc? = some utc)
    (stamps : ∀ resource, call.stamp? resource = if resource = name then some now else none)
    (tells : ∀ resource, call.word? resource = if resource = name then some error else none)
    (syncs : List (String × SyncRecord)) (resource : String) :
    call.Records resource (syncs.lookup resource)
      ((Keyed.put syncs name ⟨some utc.isoText, error⟩).lookup resource) := by
  rw [Call.Records, stamps, tells, Keyed.lookup_put]
  by_cases same : resource = name
  · simp [same, moved]
  · simp [same]

/-- A call that only tells the error of one resource keeps the time. -/
theorem Call.records_of_word (silent : ∀ resource, call.stamp? resource = none)
    (tells : ∀ resource, call.word? resource = if resource = name then some error else none)
    (syncs : List (String × SyncRecord)) (resource : String) :
    call.Records resource (syncs.lookup resource)
      ((Keyed.put syncs name ⟨(syncs.lookup name).bind (·.lastSync), error⟩).lookup resource) := by
  rw [Call.Records, silent, tells, Keyed.lookup_put]
  by_cases same : resource = name
  · simp [same]
  · simp [same]

theorem Call.records_of_silent {resource : String} (silent : call.stamp? resource = none)
    (mute : call.word? resource = none) (record : Option SyncRecord) :
    call.Records resource record record := by
  rw [Call.Records, silent, mute]

end Records

variable {store : Store} {file : StoreFile}

/-- What a call that succeeds leaves: a sound store with the records that the call
makes. -/
def Kept (store : Store) (call : Call) (file : StoreFile) : Prop :=
  ∃ after : Store, file = .intact after ∧ after.Sound ∧ ∀ resource,
    call.Records resource (store.syncs.lookup resource) (after.syncs.lookup resource)

section Kept

variable {now : Timestamp}

theorem kept_replaceAll (sound : store.Sound) {records : List Notification} {count : Nat}
    (done : (replaceAll now records).run (.intact store) = (.ok count, file)) :
    Kept store (.replaceAll now records) file := by
  obtain ⟨rows, text, _, _, stored, _, rfl⟩ := replaceAll_eq_ok done
  obtain ⟨after, same, afterSound⟩ := sound.replaceAll done
  cases same
  obtain ⟨utc, moved, rfl⟩ := Timestamp.stored_eq_ok stored
  exact ⟨_, rfl, afterSound,
    Call.records_of_stamp moved (fun _ => rfl) (fun _ => rfl) store.syncs⟩

theorem kept_upsert (sound : store.Sound) {records : List Notification}
    {answer : Nat × Nat}
    (done : (upsert now records).run (.intact store) = (.ok answer, file)) :
    Kept store (.upsert now records) file := by
  obtain ⟨after, rfl, afterSound⟩ := sound.upsert done
  cases records with
  | nil =>
      cases done
      exact ⟨_, rfl, sound, fun resource => Call.records_of_silent rfl rfl _⟩
  | cons record rest =>
      obtain ⟨rows, made, ⟨empty, _⟩ | ⟨text, known, _, stored, _, _, same⟩⟩ := upsert_eq_ok done
      · subst empty
        obtain ⟨_, empty⟩ := Notification.mapM_toRow_eq_ok.1 made
        cases empty
      · cases same
        obtain ⟨utc, moved, rfl⟩ := Timestamp.stored_eq_ok stored
        exact ⟨_, rfl, afterSound,
          Call.records_of_stamp moved (fun _ => rfl) (fun _ => rfl) store.syncs⟩

theorem kept_patch (sound : store.Sound) {key : Json} {fields : List (String × Bool)}
    {there : Bool} (done : (patchGiven now key fields).run (.intact store) = (.ok there, file)) :
    Kept store (.patch now key fields) file := by
  obtain ⟨after, rfl, afterSound, same⟩ :
      ∃ after : Store, file = .intact after ∧ after.Sound ∧ after.syncs = store.syncs := by
    rw [patchGiven] at done
    split at done
    · next id number =>
        obtain ⟨changes, between, named, done⟩ := Work.bind_eq_ok done
        cases (Prod.mk.inj named).2
        obtain rfl | ⟨text, stored, rfl⟩ := patch_eq_ok done
        · exact ⟨store, rfl, sound, rfl⟩
        · obtain ⟨utc, moved, rfl⟩ := Timestamp.stored_eq_ok stored
          have onUtc := (Timestamp.instant_of_toUtc? moved).2
          exact ⟨_, rfl, ⟨sound.notifications.patch id changes onUtc, sound.syncs⟩, rfl⟩
    · obtain ⟨changes, between, named, done⟩ := Work.bind_eq_ok done
      cases (Prod.mk.inj named).2
      split at done
      · cases done
        exact ⟨store, rfl, sound, rfl⟩
      · obtain ⟨text, between, written, done⟩ := Work.bind_eq_ok done
        cases (Prod.mk.inj written).2
        obtain ⟨_, later, given, done⟩ := Work.bind_eq_ok done
        obtain ⟨changed, checked, rfl⟩ := Transaction.commit_eq_ok given
        cases (Prod.mk.inj checked).2
        cases done
        exact ⟨store, rfl, sound, rfl⟩
  refine ⟨after, rfl, afterSound, fun resource => ?_⟩
  rw [same]
  exact Call.records_of_silent rfl rfl _

theorem kept_markSynced (sound : store.Sound) {given error : Json}
    (done : (markSyncedGiven now given error).run (.intact store) = (.ok (), file)) :
    Kept store (.markSynced now given error) file := by
  obtain ⟨text, between, written, done⟩ := Work.bind_eq_ok done
  obtain ⟨stored, rfl⟩ := Prod.mk.inj written
  obtain ⟨utc, moved, rfl⟩ := Timestamp.stored_eq_ok stored
  obtain ⟨_, later, checked, done⟩ := Work.bind_eq_ok done
  obtain ⟨changed, both, rfl⟩ := Transaction.commit_eq_ok checked
  rw [run_give_both] at both
  cases (Prod.mk.inj both).2
  split at done
  · next name known =>
      obtain ⟨after, rfl, afterSound⟩ := sound.markSynced done
      obtain ⟨_, between, written, done⟩ := Work.bind_eq_ok done
      cases (Prod.mk.inj written).2
      obtain ⟨changed, recorded, same⟩ := Transaction.commit_eq_ok done
      cases same
      obtain ⟨text, again, rfl⟩ := Transaction.recordSync_eq_ok recorded
      have same : text = utc.isoText := Except.ok.inj (again.symm.trans stored)
      subst same
      refine ⟨_, rfl, afterSound, Call.records_of_stamp moved ?_ ?_ store.syncs⟩
      · intro resource
        simp [Call.stamp?, known, eq_comm]
      · intro resource
        simp [Call.word?, known, eq_comm]
  · next unknown =>
      cases done
      refine ⟨store, rfl, sound, fun resource => Call.records_of_silent ?_ ?_ _⟩
      · simp [Call.stamp?, unknown]
      · simp [Call.word?, unknown]

theorem kept_markSyncError (sound : store.Sound) {given error : Json}
    (done : (markSyncErrorGiven given error).run (.intact store) = (.ok (), file)) :
    Kept store (.markSyncError given error) file := by
  obtain ⟨_, later, checked, done⟩ := Work.bind_eq_ok done
  obtain ⟨changed, both, rfl⟩ := Transaction.commit_eq_ok checked
  rw [run_give_both] at both
  cases (Prod.mk.inj both).2
  split at done
  · next name known =>
      rw [run_markSyncError] at done
      cases done
      refine ⟨_, rfl, sound.marked name _, Call.records_of_word (fun _ => rfl) ?_ store.syncs⟩
      intro resource
      simp [Call.word?, known, eq_comm]
  · next unknown =>
      cases done
      refine ⟨store, rfl, sound, fun resource => Call.records_of_silent rfl ?_ _⟩
      simp [Call.word?, unknown]

end Kept

/-- A call that succeeds keeps the store sound and makes the records that it is to make. -/
theorem kept_of_done (sound : store.Sound) {call : Call}
    (done : call.perform.run (.intact store) = (.ok (), file)) : Kept store call file := by
  have answered {α : Type} {work : StoreAccess α}
      (done : ((fun _ => ()) <$> work).run (.intact store) = (.ok (), file)) :
      ∃ answer, work.run (.intact store) = (.ok answer, file) := by
    rw [map_eq_pure_bind] at done
    obtain ⟨answer, between, first, done⟩ := Work.bind_eq_ok done
    cases done
    exact ⟨answer, first⟩
  cases call with
  | replaceAll now records =>
      obtain ⟨count, done⟩ := answered done
      exact kept_replaceAll sound done
  | upsert now records =>
      obtain ⟨answer, done⟩ := answered done
      exact kept_upsert sound done
  | patch now key fields =>
      obtain ⟨there, done⟩ := answered done
      exact kept_patch sound done
  | markSynced now given error => exact kept_markSynced sound done
  | markSyncError given error => exact kept_markSyncError sound done

/-! ## Any run -/

/-- Open the file again, which only makes sure that it holds a store. -/
def reopen : StoreAccess Unit :=
  Transaction.commit (pure ())

/-- What happens to a store.  A call carries the time that the clock shows when it is
made, so that the clock may move either way between calls. -/
inductive Happening where
  | called (call : Call)
  | reopened

/-- The file after a happening, whether or not it succeeds. -/
def Happening.next (file : StoreFile) : Happening → StoreFile
  | .called call => (call.perform.run file).2
  | .reopened => (reopen.run file).2

/-- The file after everything that happens. -/
def play (file : StoreFile) (happenings : List Happening) : StoreFile :=
  happenings.foldl Happening.next file

/-- The calls that succeed, the earliest one first. -/
def succeeded : StoreFile → List Happening → List Call
  | _, [] => []
  | file, .reopened :: rest => succeeded (Happening.reopened.next file) rest
  | file, .called call :: rest =>
      match call.perform.run file with
      | (.ok (), after) => call :: succeeded after rest
      | (.error _, after) => succeeded after rest

/-- The record of a resource agrees with the calls that succeeded. -/
structure Told (resource : String) (past : List Call) (record : Option SyncRecord) : Prop where
  time : ∃ last, Timestamp.InUtc? last ∧
    record.bind (·.lastSync) = last.map Timestamp.isoText ∧
    last.map Timestamp.instant = (lastStamp resource past).map Timestamp.instant
  error : record.bind (·.error) = lastWord resource past

theorem told_nil (resource : String) : Told resource [] none :=
  ⟨⟨none, Timestamp.inUtc?_none, rfl, rfl⟩, rfl⟩

theorem getLast?_filterMap_append_singleton {α β : Type} (image : α → Option β) (items : List α)
    (next : α) : ((items ++ [next]).filterMap image).getLast? =
      (image next).or (items.filterMap image).getLast? := by
  cases known : image next <;> simp [known]

/-- One more call that succeeds keeps the record in agreement. -/
theorem Told.next {resource : String} {past : List Call} {before after : Option SyncRecord}
    {call : Call} (told : Told resource past before)
    (records : call.Records resource before after) : Told resource (past ++ [call]) after := by
  have stamps : lastStamp resource (past ++ [call]) =
      (call.stamp? resource).or (lastStamp resource past) :=
    getLast?_filterMap_append_singleton _ past call
  have words : lastWord resource (past ++ [call]) =
      ((call.word? resource).or (past.filterMap (Call.word? resource)).getLast?).join :=
    congrArg Option.join (getLast?_filterMap_append_singleton _ past call)
  rw [Call.Records] at records
  split at records
  · next now error stamped said =>
      obtain ⟨utc, moved, rfl⟩ := records
      rw [stamped, Option.some_or] at stamps
      rw [said, Option.some_or] at words
      refine ⟨⟨some utc, fun given same => ?_, rfl, ?_⟩, words.symm⟩
      · cases same
        exact (Timestamp.instant_of_toUtc? moved).2
      · simp [stamps, (Timestamp.instant_of_toUtc? moved).1]
  · next error silent said =>
      cases records
      rw [silent, Option.none_or] at stamps
      rw [said, Option.some_or] at words
      exact ⟨stamps ▸ told.time, words.symm⟩
  · next silent mute =>
      cases records
      rw [silent, Option.none_or] at stamps
      rw [mute, Option.none_or] at words
      exact ⟨stamps ▸ told.time, told.error.trans words.symm⟩
  · exact records.elim

/-- A run keeps the store sound and the records of all resources in agreement with the
calls that succeeded. -/
theorem told_play (happenings : List Happening) :
    ∀ {store : Store} {past : List Call}, store.Sound →
      (∀ resource, Told resource past (store.syncs.lookup resource)) →
      ∃ after : Store, play (.intact store) happenings = .intact after ∧ after.Sound ∧
        ∀ resource, Told resource (past ++ succeeded (.intact store) happenings)
          (after.syncs.lookup resource) := by
  induction happenings with
  | nil =>
      intro store past sound told
      exact ⟨store, rfl, sound, by simpa [succeeded] using told⟩
  | cons happening rest ih =>
      intro store past sound told
      cases happening with
      | reopened => exact ih sound told
      | called call =>
          rw [play, List.foldl_cons, Happening.next, succeeded]
          obtain ⟨_, ⟨⟩, file, done⟩ | ⟨_, error, failed⟩ := decided_perform store call
          · obtain ⟨between, rfl, kept, records⟩ := kept_of_done sound done
            rw [done]
            have later := ih kept fun resource => (told resource).next (records resource)
            simp only [List.append_assoc, List.singleton_append] at later
            exact later
          · rw [failed]
            exact ih sound told

theorem all_since_iff {last : Option Timestamp} {now : Timestamp} {lifetime : Duration} :
    (last.all fun time => decide (lifetime.micros < now.instant - time.instant)) = true ↔
      ∀ instant ∈ last.map Timestamp.instant, lifetime.micros < now.instant - instant := by
  cases last <;> simp

/-- A call that does not stamp a resource keeps the time of its last synchronisation. -/
theorem lastSyncTime_next (sound : store.Sound) {call : Call} {resource : String}
    (silent : call.stamp? resource = none) :
    ((lastSyncTime resource).run (Happening.next (.intact store) (.called call))).1 =
      ((lastSyncTime resource).run (.intact store)).1 := by
  rw [Happening.next]
  obtain ⟨_, ⟨⟩, file, done⟩ | ⟨_, error, failed⟩ := decided_perform store call
  · obtain ⟨after, rfl, kept, records⟩ := kept_of_done sound done
    obtain ⟨status, read, utc, written, _⟩ := sound.run_syncStatus resource
    obtain ⟨status', read', utc', written', _⟩ := kept.run_syncStatus resource
    have same : (after.syncs.lookup resource).bind (·.lastSync) =
        (store.syncs.lookup resource).bind (·.lastSync) := by
      have records := records resource
      rw [Call.Records, silent] at records
      split at records
      · contradiction
      · rw [records]
        rfl
      · rw [records]
      · contradiction
    rw [written, written'] at same
    rw [done, run_lastSyncTime read, run_lastSyncTime read',
      Timestamp.eq_of_map_isoText utc' utc same]
  · rw [failed]

/-- After any run of a new store, for every resource: the time of the last
synchronisation is the instant of the last call that stamps it and that succeeded; the
recorded error is what the last such call that tells it told; and with an aware clock
the resource is stale exactly if it has no stamp or one that is more than the lifetime
old.  A call that does not stamp the resource, such as one that sets flags or records an
error, leaves the time where it is. -/
theorem status_follows_last_calls (happenings : List Happening) (resource : String)
    {now : Timestamp} (aware : now.offset.isSome) (lifetime : Duration) :
    ∃ file calls, play (.intact {}) happenings = file ∧
      succeeded (.intact {}) happenings = calls ∧
      (∃ last, (lastSyncTime resource).run file = (.ok last, file) ∧
        last.map Timestamp.instant = (lastStamp resource calls).map Timestamp.instant) ∧
      (∃ status, (syncStatus resource).run file = (.ok status, file) ∧
        status.bind (·.error) = lastWord resource calls) ∧
      (∃ stale, (isStale now resource lifetime).run file = (.ok stale, file) ∧
        (stale = true ↔ ∀ stamp ∈ lastStamp resource calls,
          lifetime.micros < now.instant - stamp.instant)) ∧
      ∀ call : Call, call.stamp? resource = none →
        ((lastSyncTime resource).run (Happening.next file (.called call))).1 =
          ((lastSyncTime resource).run file).1 := by
  obtain ⟨store, played, sound, told⟩ := @told_play happenings _ [] sound_empty told_nil
  obtain ⟨⟨time, utc, known, stamped⟩, said⟩ := told resource
  obtain ⟨status, read, utc', written, error⟩ := sound.run_syncStatus resource
  have last := Timestamp.eq_of_map_isoText utc' utc (written.symm.trans known)
  have time := run_lastSyncTime read
  refine ⟨.intact store, _, played, rfl, ⟨_, time, ?_⟩, ⟨status, read, ?_⟩, ⟨_,
    run_isStale_of_lastSync time ?_ lifetime, ?_⟩, fun call => lastSyncTime_next sound⟩
  · rw [last]
    exact stamped
  · exact error.symm.trans said
  · simpa using aware
  · rw [← last] at stamped
    rw [all_since_iff, stamped, Option.forall_mem_map]
    exact Iff.rfl

/-- A synchronisation, an addition that fails, and an error. -/
def busyRun : List Happening :=
  [.called (.markSynced pagesClock (.str "notifications") .null),
    .called (.upsert pagesClock oneMisfit), .reopened,
    .called (.markSyncError (.str "notifications") (.str "busy"))]

theorem status_of_busyRun :
    pagesClock.offset.isSome ∧ ∃ file, play (.intact {}) busyRun = file ∧
      (∃ last, (lastSyncTime "notifications").run file = (.ok last, file) ∧
        last.map Timestamp.instant = some pagesClock.instant) ∧
      (∃ status, (syncStatus "notifications").run file = (.ok status, file) ∧
        status.bind (·.error) = some "busy") ∧
      (isStale pagesClock "notifications" defaultLifetime).run file = (.ok false, file) := by
  have aware : pagesClock.offset.isSome := rfl
  obtain ⟨file, calls, played, rfl, time, error, ⟨stale, asked, meaning⟩, _⟩ :=
    status_follows_last_calls busyRun "notifications" aware defaultLifetime
  have stamp : lastStamp "notifications" (succeeded (.intact {}) busyRun) = some pagesClock := rfl
  have word : lastWord "notifications" (succeeded (.intact {}) busyRun) = some "busy" := rfl
  rw [stamp] at time meaning
  rw [word] at error
  have fresh : stale = false := by
    rw [Bool.eq_false_iff, Ne, meaning]
    intro old
    exact absurd (old pagesClock rfl) (by decide)
  exact ⟨aware, file, played, time, error, fresh ▸ asked⟩

end Store

end Triage
