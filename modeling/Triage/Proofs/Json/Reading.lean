import Triage.Json.Body
import Triage.Proofs.Keyed
import Triage.Proofs.Number.Digits
import Triage.Proofs.Work

/-!
# What was read can be written

A value that was read has no more values within each other than there was room for, and
no integer of more digits than are written.  The same holds of every part of it.
-/

namespace Triage.Json

/-! ## Parts of a value -/

/-- A value that stands somewhere within another. -/
inductive Within : Json → Json → Prop where
  | whole (value : Json) : Within value value
  | item {part item : Json} {items : List Json} (member : item ∈ items)
      (inner : Within part item) : Within part (.arr items)
  | field {part : Json} {field : String × Json} {fields : List (String × Json)}
      (member : field ∈ fields) (inner : Within part field.2) : Within part (.obj fields)

/-- A value that some text gives, or that stands within one. -/
def Readable (room : Room) (value : Json) : Prop :=
  ∃ body whole, readBody room.reading body = .ok whole ∧ Within value whole

/-! ## What can be written -/

theorem itemsFault?_eq_none_iff {room : Nat} {items : List Json} :
    itemsFault? room items = none ↔ ∀ item ∈ items, writingFault? room item = none := by
  induction items with
  | nil => simp [itemsFault?]
  | cons item rest ih => simp [itemsFault?, Option.or_eq_none_iff, ih]

theorem fieldsFault?_eq_none_iff {room : Nat} {fields : List (String × Json)} :
    fieldsFault? room fields = none ↔ ∀ field ∈ fields, writingFault? room field.2 = none := by
  induction fields with
  | nil => simp [fieldsFault?]
  | cons field rest ih =>
      rw [fieldsFault?, fieldFault?, Option.or_eq_none_iff, ih, List.forall_mem_cons]

/-- More room does no harm. -/
theorem writingFault?_mono {room more : Nat} (le : room ≤ more) {value : Json}
    (free : writingFault? room value = none) : writingFault? more value = none := by
  induction room generalizing more value with
  | zero => cases value <;> simp [writingFault?] at free
  | succ room ih =>
      obtain ⟨more, rfl⟩ : ∃ fewer, more = fewer + 1 := ⟨more - 1, by omega⟩
      have le : room ≤ more := by omega
      cases value with
      | int => exact free
      | arr items =>
          rw [writingFault?, itemsFault?_eq_none_iff] at free ⊢
          exact fun item member => ih le (free item member)
      | obj fields =>
          rw [writingFault?, fieldsFault?_eq_none_iff] at free ⊢
          exact fun field member => ih le (free field member)
      | _ => rfl

/-- The parts of a value that can be written can be written. -/
theorem Within.writable {part whole : Json} (within : Within part whole) {room : Nat}
    (free : writingFault? room whole = none) : writingFault? room part = none := by
  induction within with
  | whole => exact free
  | item member _ ih =>
      cases room with
      | zero => simp [writingFault?] at free
      | succ room =>
          rw [writingFault?, itemsFault?_eq_none_iff] at free
          exact ih (writingFault?_mono room.le_succ (free _ member))
  | field member _ ih =>
      cases room with
      | zero => simp [writingFault?] at free
      | succ room =>
          rw [writingFault?, fieldsFault?_eq_none_iff] at free
          exact ih (writingFault?_mono room.le_succ (free _ member))

theorem readWhole?_digits {characters whole rest : List Char}
    (read : readWhole? characters = some (whole, rest)) :
    ∀ digit ∈ whole, Text.isAsciiDigit digit = true := by
  have run : ∀ digit ∈ characters.takeWhile Text.isAsciiDigit, Text.isAsciiDigit digit = true :=
    List.all_eq_true.1 List.all_takeWhile
  revert read
  fun_cases readWhole? characters with
  | case1 => nofun
  | case2 =>
      rintro ⟨⟩
      exact List.forall_mem_singleton.2 rfl
  | case3 => nofun
  | case4 =>
      rintro ⟨⟩
      exact run

/-- A number that is read has no more digits than are written. -/
theorem writable_of_readNumber? {negative : Bool} {characters rest : List Char} {value : Json}
    (read : readNumber? negative characters = some (value, rest)) (room : Nat) :
    writingFault? (room + 1) value = none := by
  revert read
  fun_cases readNumber? negative characters with
  | case1 => nofun
  | case2 => nofun
  | case3 whole afterWhole found fraction exponent plain few magnitude =>
      rintro ⟨⟩
      have below := (Text.foldl_digits_bounds (readWhole?_digits found) 0).2
      rw [Nat.zero_add, Nat.one_mul] at below
      have same : (if negative then -magnitude else magnitude).natAbs = digitsValue whole := by
        cases negative <;> simp [magnitude]
      rw [writingFault?, if_pos (IntegerText.isWritable_of_lt (Nat.le_of_not_lt few)
        (same ▸ below))]
  | case4 =>
      rintro ⟨⟩
      rfl

/-- What is read of an atom can be written wherever there is room for one value. -/
theorem writable_of_readAtom? {characters rest : List Char} {value : Json}
    (read : readAtom? characters = some (value, rest)) (room : Nat) :
    writingFault? (room + 1) value = none := by
  have word {text : String} {found : Json} (free : writingFault? (room + 1) found = none)
      (read : (skipWord? text characters).map (found, ·) = some (value, rest)) :
      writingFault? (room + 1) value = none := by
    obtain ⟨_, _, same⟩ := Option.map_eq_some_iff.1 read
    cases same
    exact free
  revert read
  fun_cases readAtom? characters with
  | case1 | case2 | case3 | case4 | case5 | case6 => exact word rfl
  | case7 | case8 => exact fun read => writable_of_readNumber? read room

/-- The entries of which the last one of a key counts are among those given. -/
theorem mem_of_mem_ofList {fields : List (String × Json)} {field : String × Json}
    (member : field ∈ Keyed.ofList fields) : field ∈ fields :=
  (Keyed.mem_ofList.1 member).mem

theorem roomWithin_eq_ok {container : Container} {room inner : Nat}
    (found : roomWithin container room = .ok inner) : room = inner + 1 := by
  cases room <;> cases found
  rfl

theorem orMalformed_eq_ok {α : Type} {found : Option α} {value : α} :
    orMalformed found = .ok value ↔ found = some value := by
  cases found <;> simp [orMalformed]

/-- A value that is read where there is room for some arrays and objects within each other
can be written where there is room for one more value: by the amount of fuel, for values,
items and fields together. -/
theorem writable_of_read (fuel : Nat) :
    (∀ {room : Nat} {characters rest : List Char} {value : Json},
      readValue fuel room characters = .ok (value, rest) →
        writingFault? (room + 1) value = none) ∧
    (∀ {room : Nat} {reversed : List Json} {characters rest : List Char} {value : Json},
      (∀ item ∈ reversed, writingFault? (room + 1) item = none) →
      readItems fuel room reversed characters = .ok (value, rest) →
        writingFault? (room + 2) value = none) ∧
    ∀ {room : Nat} {reversed : List (String × Json)} {characters rest : List Char} {value : Json},
      (∀ field ∈ reversed, writingFault? (room + 1) field.2 = none) →
      readFields fuel room reversed characters = .ok (value, rest) →
        writingFault? (room + 2) value = none := by
  induction fuel with
  | zero => exact ⟨nofun, fun _ => nofun, fun _ => nofun⟩
  | succ fuel ih =>
      obtain ⟨values, items, fields⟩ := ih
      refine ⟨fun read => ?_, fun before read => ?_, fun before read => ?_⟩
      · unfold readValue at read
        split at read
        · obtain ⟨string, _, read⟩ := Outcome.bind_eq_ok.1 read
          cases read
          rw [ofCodes]
          split <;> rfl
        · obtain ⟨inner, room, read⟩ := Outcome.bind_eq_ok.1 read
          obtain rfl := roomWithin_eq_ok room
          split at read
          · cases read
            rfl
          · exact items (by simp) read
        · obtain ⟨inner, room, read⟩ := Outcome.bind_eq_ok.1 read
          obtain rfl := roomWithin_eq_ok room
          split at read
          · cases read
            rfl
          · exact fields (by simp) read
        · exact writable_of_readAtom? (orMalformed_eq_ok.1 read) _
      · unfold readItems at read
        obtain ⟨⟨item, after⟩, first, read⟩ := Outcome.bind_eq_ok.1 read
        have each : ∀ other ∈ item :: _, writingFault? (_ + 1) other = none :=
          List.forall_mem_cons.2 ⟨values first, before⟩
        dsimp only at read
        split at read
        · exact items each read
        · cases read
          rw [writingFault?, itemsFault?_eq_none_iff]
          exact fun other member => each other (List.mem_reverse.1 member)
        · cases read
      · unfold readFields at read
        split at read
        · obtain ⟨⟨codes, afterKey⟩, _, read⟩ := Outcome.bind_eq_ok.1 read
          dsimp only at read
          split at read
          · obtain ⟨⟨value, afterValue⟩, first, read⟩ := Outcome.bind_eq_ok.1 read
            have each : ∀ other ∈ (keyOfCodes codes, value) :: _,
                writingFault? (_ + 1) other.2 = none :=
              List.forall_mem_cons.2 ⟨values first, before⟩
            dsimp only at read
            split at read
            · exact fields each read
            · cases read
              rw [writingFault?, fieldsFault?_eq_none_iff]
              exact fun other member => each other
                (List.mem_reverse.1 (mem_of_mem_ofList member))
            · cases read
          · cases read
        · cases read

/-- What a body holds can be written, as there is more room for that. -/
theorem writable_of_readBody {room : Nat} {body : String} {value : Json}
    (read : readBody room body = .ok value) : writingFault? (room + 1) value = none := by
  have list {characters : List Char} (read : readList room characters = .ok value) :
      writingFault? (room + 1) value = none := by
    obtain ⟨⟨found, rest⟩, first, read⟩ := Outcome.bind_eq_ok.1 read
    dsimp only at read
    split at read <;> cases read
    exact (writable_of_read _).1 first
  rw [readBody] at read
  split at read
  · cases read
  · split at read
    · exact list read
    · obtain ⟨characters, _, read⟩ := Outcome.bind_eq_ok.1 read
      exact list read

/-- Whatever stands in a text that can be read can be written. -/
theorem Readable.writable {room : Room} {value : Json} (readable : Readable room value) :
    writingFault? room.writing value = none := by
  obtain ⟨body, whole, read, within⟩ := readable
  exact writingFault?_mono room.reading_lt (within.writable (writable_of_readBody read))

end Triage.Json
