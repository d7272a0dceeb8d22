import Triage.Proofs.Store.LastCopy

/-!
# Reading rows back

A notification that is written as a row and read back is the same one, its times at the
same instants on the UTC clock.  What is read back is written as the same row, apart from
the time of writing.
-/

namespace Triage

/-! ## Times on the UTC clock -/

namespace Timestamp

/-- A time at the same instant on the UTC clock.  A time that is absent stays absent. -/
structure Moved (given moved : Option Timestamp) : Prop where
  instant : moved.map Timestamp.instant = given.map Timestamp.instant
  inUtc : InUtc? moved

variable {time : Timestamp} {given : Option Timestamp}

theorem moved_bind_toUtc? (within : ∀ time ∈ given, time.WithinYears) :
    Moved given (given.bind (·.toUtc?)) :=
  ⟨map_instant_toUtc? within, inUtc?_bind_toUtc? given⟩

/-- On the UTC clock a time is at hand. -/
theorem toUtc?_of_utc (utc : time.offset = some 0) : time.toUtc? = some time := by
  obtain ⟨wall, offset, bound⟩ := time
  cases utc
  rw [toUtc?, instant_utc, ofWall?, dif_pos (by omega)]
  rfl

theorem withinYears_of_utc (utc : time.offset = some 0) : time.WithinYears := by
  obtain ⟨wall, offset, bound⟩ := time
  cases utc
  rw [WithinYears, instant_utc, limit]
  omega

theorem InUtc?.bind_toUtc? (utc : InUtc? given) : given.bind (·.toUtc?) = given := by
  cases given with
  | none => rfl
  | some time => exact toUtc?_of_utc (utc time rfl)

end Timestamp

/-! ## Notifications on the UTC clock -/

namespace Notification

variable {record : Notification} {now later : Timestamp}

theorem InUtc.timely (utc : record.InUtc) : record.Timely where
  createdAt time given := Timestamp.withinYears_of_utc (utc.createdAt time given)
  updatedAt time given := Timestamp.withinYears_of_utc (utc.updatedAt time given)
  lastReadAt time given := Timestamp.withinYears_of_utc (utc.lastReadAt time given)

/-- Writing keeps times that are on the UTC clock, apart from the time of writing. -/
theorem InUtc.onUtc_eq (utc : record.InUtc) (later : Timestamp) :
    record.onUtc later = { record with fetchedAt := later.toUtc? } := by
  rw [onUtc, utc.createdAt.bind_toUtc?, utc.updatedAt.bind_toUtc?, utc.lastReadAt.bind_toUtc?]

/-- The row of a notification on the UTC clock differs from its earlier ones in the time of
writing alone. -/
theorem InUtc.toRow (utc : record.InUtc) (clock : later.WithinYears) :
    record.toRow later =
      .ok { record.written with fetchedAt := later.toUtc?.map Timestamp.isoText } := by
  rw [utc.timely.toRow clock, utc.onUtc_eq]
  rfl

/-! ## Rows that are read back -/

/-- A notification with its times left out. -/
def withoutTimes (record : Notification) : Notification :=
  { record with createdAt := none, updatedAt := none, lastReadAt := none, fetchedAt := none }

/-- A notification is another one that was written at a given time: it has the other one's
times on the UTC clock, the time of writing as the one when it was fetched, and all else in
common with the other one. -/
structure ReadBack (record : Notification) (now : Timestamp) (read : Notification) : Prop where
  withoutTimes : read.withoutTimes = record.withoutTimes
  createdAt : Timestamp.Moved record.createdAt read.createdAt
  updatedAt : Timestamp.Moved record.updatedAt read.updatedAt
  lastReadAt : Timestamp.Moved record.lastReadAt read.lastReadAt
  fetchedAt : Timestamp.Moved (some now) read.fetchedAt

theorem Timely.readBack_onUtc (timely : record.Timely) (clock : now.WithinYears) :
    record.ReadBack now (record.onUtc now) where
  withoutTimes := rfl
  createdAt := Timestamp.moved_bind_toUtc? timely.createdAt
  updatedAt := Timestamp.moved_bind_toUtc? timely.updatedAt
  lastReadAt := Timestamp.moved_bind_toUtc? timely.lastReadAt
  fetchedAt := Timestamp.moved_bind_toUtc? (by rintro time ⟨⟩; exact clock)

/-- A notification whose times lie within the years 1 to 9999 of the UTC clock is written as
a row, and from the row it is read back.  Written once more at any other time, what is read
back has the same row, with that time as the time of writing. -/
theorem row_round_trip (timely : record.Timely) (clock : now.WithinYears) :
    ∃ row read, record.toRow now = .ok row ∧ ofRow row = .ok read ∧ record.ReadBack now read ∧
      ∀ later : Timestamp, later.WithinYears →
        ∃ utc, Timestamp.Moved (some later) (some utc) ∧
          read.toRow later = .ok { row with fetchedAt := some utc.isoText } := by
  have utc := inUtc_onUtc record now
  refine ⟨_, _, timely.toRow clock, ofRow_written utc, timely.readBack_onUtc clock,
    fun later within => ?_⟩
  obtain ⟨moved, known⟩ := within.exists_toUtc?
  obtain ⟨instant, offset⟩ := Timestamp.instant_of_toUtc? known
  exact ⟨moved, ⟨congrArg some instant, by rintro time ⟨⟩; exact offset⟩,
    by rw [utc.toRow within, known]; rfl⟩

/-- A notification with a time without an offset, one that is behind UTC by half a minute and
half a second at the end of a year, and one that is absent. -/
def aroundNewYear : Notification where
  id := 9
  flags := { starred := true }
  subject := { title := some "Release v2", kind := some "Release" }
  repo := { id := some 4, name := some "acme/api" }
  createdAt := some ⟨63839620800000000, none, by decide⟩
  updatedAt := some ⟨63839663999999999, some (-30500000), by decide⟩

/-- A quarter past midnight on the first of March, on a clock that is ahead of UTC by five
hours and a half. -/
def marchClock : Timestamp := ⟨63844848900000000, some 19800000000, by decide⟩

theorem around_new_year_round_trip :
    aroundNewYear.Timely ∧ marchClock.WithinYears ∧
      ∃ row read, aroundNewYear.toRow marchClock = .ok row ∧
        (row.createdAt, row.updatedAt, row.lastReadAt, row.fetchedAt) =
          (some "2023-12-31T12:00:00+00:00", some "2024-01-01T00:00:30.499999+00:00", none,
            some "2024-02-29T18:45:00+00:00") ∧
        ofRow row = .ok read ∧ aroundNewYear.ReadBack marchClock read ∧
        ∀ later : Timestamp, later.WithinYears →
          ∃ utc, Timestamp.Moved (some later) (some utc) ∧
            read.toRow later = .ok { row with fetchedAt := some utc.isoText } := by
  have clock : marchClock.WithinYears := ⟨by decide, by decide⟩
  have timely : aroundNewYear.Timely := by
    refine ⟨?_, ?_, ?_⟩
    all_goals rintro given ⟨⟩
    all_goals exact ⟨by decide, by decide⟩
  obtain ⟨row, read, written, back, same, again⟩ := row_round_trip timely clock
  refine ⟨timely, clock, row, read, written, ?_, back, same, again⟩
  have texts : (aroundNewYear.toRow marchClock).map
      (fun row => (row.createdAt, row.updatedAt, row.lastReadAt, row.fetchedAt)) =
        .ok (some "2023-12-31T12:00:00+00:00", some "2024-01-01T00:00:30.499999+00:00", none,
          some "2024-02-29T18:45:00+00:00") := by
    decide +kernel
  rw [written] at texts
  exact Except.ok.inj texts

end Notification

end Triage
