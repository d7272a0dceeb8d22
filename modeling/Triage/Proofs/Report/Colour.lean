import Mathlib.Data.List.Forall2
import Triage.Console.Machine
import Triage.Proofs.Report.Age
import Triage.Proofs.Text.Lower
import Triage.Report.Overview

/-!
# Colours and text

Colours only add escape sequences to a report: without them it is the report that is written
without colours.  Every text is cut and padded before it is painted, so that no width depends
on colours.  This needs texts that bring no escape character of their own.
-/

namespace Triage

/-! ## Texts without escape characters -/

/-- A text without escape characters. -/
def Plain (text : String) : Prop :=
  Report.escapeMark ∉ text.toList

instance (text : String) : Decidable (Plain text) :=
  inferInstanceAs (Decidable (¬ _))

namespace Plain

variable {text : String}

@[simp] theorem append_iff (first second : String) :
    Plain (first ++ second) ↔ Plain first ∧ Plain second := by
  simp [Plain]

theorem padding (width : Nat) : Plain (String.ofList (List.replicate width ' ')) := by
  have differs : Report.escapeMark ≠ ' ' := by decide
  simp [Plain, List.mem_replicate, differs]

@[simp] theorem padLeft_iff (width : Nat) (text : String) :
    Plain (Text.padLeft width text) ↔ Plain text := by
  simp [Text.padLeft, padding]

@[simp] theorem padRight_iff (width : Nat) (text : String) :
    Plain (Text.padRight width text) ↔ Plain text := by
  simp [Text.padRight, padding]

theorem take (count : Nat) (plain : Plain text) : Plain (Text.take count text) := by
  simp only [Plain, Text.take, String.toList_ofList]
  exact fun member => plain (List.mem_of_mem_take member)

@[simp] theorem natRepr (number : Nat) : Plain number.repr := by
  have digits : ∀ digit ∈ Nat.toDigits 10 number, digit.isDigit = true :=
    fun _ => Nat.isDigit_of_mem_toDigits (by decide) (by decide)
  simp only [Plain, Nat.repr_eq_ofList_toDigits, String.toList_ofList]
  intro member
  exact absurd (digits _ member) (by decide)

@[simp] theorem intRepr (number : Int) : Plain number.repr := by
  cases number with
  | ofNat number => exact natRepr number
  | negSucc number =>
      change Plain ("-" ++ (number + 1).repr)
      exact (append_iff _ _).2 ⟨by decide, natRepr _⟩

/-- A text of a table, or else another one, brings no escape character if none of these does. -/
theorem lookup {table : List (String × String)} {default : String} (key : String)
    (every : ∀ entry ∈ table, Plain entry.2) (plain : Plain default) :
    Plain ((table.lookup key).getD default) := by
  cases found : table.lookup key with
  | none => exact plain
  | some text =>
      obtain ⟨before, after, rfl, -⟩ := List.lookup_eq_some_iff.1 found
      exact every (key, text) (by simp)

end Plain

/-! ## Upper case -/

namespace Text

/-- No run of capitals leads to an escape character. -/
theorem upper_leads_beyond_controls :
    ∀ run ∈ CaseTable.upper.toList, 27 < run.image run.first := by
  decide +kernel

theorem upperLong_leads_beyond_controls :
    ∀ entry ∈ CaseTable.upperLong.toList, ∀ code ∈ entry.2,
      Char.ofNat code ≠ Report.escapeMark := by
  decide +kernel

theorem ofNat_ne_escapeMark {code : Nat} (beyond : 27 < code) :
    Char.ofNat code ≠ Report.escapeMark := by
  by_cases valid : code.isValidChar
  · intro same
    have codes := congrArg Char.toNat same
    rw [Char.ofNat, dif_pos valid] at codes
    change code = 27 at codes
    omega
  · rw [Char.ofNat, dif_neg valid]
    decide

/-- Upper case makes no escape character of another character. -/
theorem ne_escapeMark_of_mem_upperChar {character part : Char}
    (plain : character ≠ Report.escapeMark) (member : part ∈ upperChar character) :
    part ≠ Report.escapeMark := by
  by_cases ascii : character.toNat < 128
  · have every : ∀ code < 128, Char.ofNat code ≠ Report.escapeMark →
        asciiUpperChar (Char.ofNat code) ≠ Report.escapeMark := by decide +kernel
    simp only [upperChar, ascii, if_true, List.mem_singleton] at member
    rw [member]
    simpa using every character.toNat ascii (by simpa using plain)
  · simp only [upperChar, ascii, if_false] at member
    split at member
    · next form found =>
        obtain ⟨entry, known, rfl⟩ := Option.map_eq_some_iff.1 found
        obtain ⟨code, present, rfl⟩ := List.mem_map.1 member
        exact upperLong_leads_beyond_controls entry (Array.mem_of_find?_eq_some known).val
          code present
    · next short =>
        rw [List.mem_singleton.1 member]
        cases found : CaseTable.Run.image? CaseTable.upper character.toNat with
        | none => exact plain
        | some image =>
            obtain ⟨run, known, first, -, -, rfl⟩ := exists_run_of_image? found
            have beyond := upper_leads_beyond_controls run known
            have place := run.image_eq (Nat.zero_lt_of_lt beyond) first
            exact ofNat_ne_escapeMark (by omega)

end Text

theorem Plain.upper {text : String} (plain : Plain text) : Plain (Text.upper text) := by
  simp only [Plain, Text.upper, String.toList_ofList, List.mem_flatMap, not_exists, not_and]
  intro character member part
  refine Text.ne_escapeMark_of_mem_upperChar ?_ part rfl
  rintro rfl
  exact plain member

namespace Report

/-! ## Removal of escape sequences -/

/-- A character that may stand between the start of an escape sequence for styles and its
end. -/
def isParameter (character : Char) : Bool :=
  character.isDigit || character == ';'

/-- What follows an escape sequence for styles with which a text starts. -/
def behindSequence? : List Char → Option (List Char)
  | first :: second :: rest =>
      if first = escapeMark ∧ second = '[' then
        match rest.dropWhile isParameter with
        | 'm' :: behind => some behind
        | _ => none
      else none
  | _ => none

theorem length_lt_of_behindSequence? {characters behind : List Char}
    (found : behindSequence? characters = some behind) : behind.length < characters.length := by
  match characters with
  | [] => cases found
  | [_] => cases found
  | first :: second :: rest =>
      have shorter := (List.dropWhile_sublist isParameter (l := rest)).length_le
      simp only [behindSequence?] at found
      split at found
      · split at found
        · next same =>
            cases found
            rw [same] at shorter
            simp only [List.length_cons] at shorter ⊢
            omega
        · cases found
      · cases found

/-- Characters without the escape sequences for styles among them. -/
def stripped : List Char → List Char
  | [] => []
  | character :: rest =>
      match _found : behindSequence? (character :: rest) with
      | some behind => stripped behind
      | none => character :: stripped rest
termination_by characters => characters.length
decreasing_by
  · exact length_lt_of_behindSequence? ‹_›
  · simp

/-- A text without its escape sequences for styles. -/
def withoutStyles (text : String) : String :=
  String.ofList (stripped text.toList)

@[simp] theorem stripped_nil : stripped [] = [] := by
  rw [stripped]

theorem stripped_of_sequence {character : Char} {rest behind : List Char}
    (starts : behindSequence? (character :: rest) = some behind) :
    stripped (character :: rest) = stripped behind := by
  rw [stripped]
  split
  · next found =>
      rw [starts] at found
      cases found
      rfl
  · next found =>
      rw [starts] at found
      cases found

theorem stripped_of_no_sequence {character : Char} {rest : List Char}
    (starts : behindSequence? (character :: rest) = none) :
    stripped (character :: rest) = character :: stripped rest := by
  rw [stripped]
  split
  · next found =>
      rw [starts] at found
      cases found
  · rfl

theorem stripped_of_ne {character : Char} (plain : character ≠ escapeMark) (rest : List Char) :
    stripped (character :: rest) = character :: stripped rest := by
  apply stripped_of_no_sequence
  cases rest with
  | nil => rfl
  | cons second rest => simp [behindSequence?, plain]

theorem stripped_append {characters : List Char} (plain : escapeMark ∉ characters)
    (rest : List Char) : stripped (characters ++ rest) = characters ++ stripped rest := by
  induction characters with
  | nil => rfl
  | cons character more ih =>
      rw [List.mem_cons, not_or] at plain
      rw [List.cons_append, stripped_of_ne (Ne.symm plain.1), ih plain.2, List.cons_append]

/-- The sequence of any number is removed. -/
theorem stripped_sequence_append (number : Nat) (rest : List Char) :
    stripped ((sequence number).toList ++ rest) = stripped rest := by
  have parameters : ∀ digit ∈ Nat.toDigits 10 number, isParameter digit = true := by
    intro digit member
    rw [isParameter, Nat.isDigit_of_mem_toDigits (by decide) (by decide) member, Bool.true_or]
  have spelled : (sequence number).toList ++ rest =
      escapeMark :: '[' :: (Nat.toDigits 10 number ++ 'm' :: rest) := by
    simp [sequence, Nat.repr_eq_ofList_toDigits]
  have starts : behindSequence? (escapeMark :: '[' :: (Nat.toDigits 10 number ++ 'm' :: rest)) =
      some rest := by
    have ends : isParameter 'm' = false := by decide
    rw [behindSequence?, if_pos ⟨rfl, rfl⟩, List.dropWhile_append_of_pos parameters,
      List.dropWhile_cons_of_neg (by simp [ends])]
    rfl
  rw [spelled, stripped_of_sequence starts]

/-! ## Texts that differ in colours -/

/-- Without its escape sequences a text is another one, whatever follows. -/
def ShownAs (shown text : String) : Prop :=
  ∀ rest, stripped (shown.toList ++ rest) = text.toList ++ stripped rest

theorem ShownAs.withoutStyles_eq {shown text : String} (same : ShownAs shown text) :
    withoutStyles shown = text := by
  have alone := same []
  rw [List.append_nil, stripped_nil, List.append_nil] at alone
  rw [withoutStyles, alone, String.ofList_toList]

theorem ShownAs.append {shown shown' text text' : String} (first : ShownAs shown text)
    (second : ShownAs shown' text') : ShownAs (shown ++ shown') (text ++ text') := by
  intro rest
  rw [String.toList_append, String.toList_append, List.append_assoc, first, second,
    List.append_assoc]

theorem shownAs_of_plain {text : String} (plain : Plain text) : ShownAs text text :=
  stripped_append plain

theorem shownAs_sequence (number : Nat) : ShownAs (sequence number) "" :=
  stripped_sequence_append number

theorem shownAs_sequences (numbers : List Nat) :
    ShownAs (String.join (numbers.map sequence)) "" := by
  induction numbers with
  | nil => exact shownAs_of_plain (by decide)
  | cons number rest ih =>
      rw [List.map_cons, String.join_cons]
      exact (shownAs_sequence number).append ih

/-- Styles add nothing but escape sequences. -/
theorem shownAs_paint (coloured : Bool) (styles : List Style) {text : String}
    (plain : Plain text) :
    ShownAs (paint coloured styles text) (paint false styles text) := by
  cases coloured with
  | false => exact shownAs_of_plain plain
  | true =>
      have sequences := shownAs_sequences (styles.map Style.number)
      rw [List.map_map] at sequences
      have whole := (sequences.append (shownAs_of_plain plain)).append (shownAs_sequence 0)
      rwa [String.empty_append, String.append_empty] at whole

/-- Lines that differ in colours make texts that do. -/
theorem shownAs_joinLines {shown text : List String} (lines : List.Forall₂ ShownAs shown text) :
    ShownAs (joinLines shown) (joinLines text) := by
  unfold joinLines
  induction lines with
  | nil => exact shownAs_of_plain (by decide)
  | @cons first first' shown text same lines ih =>
      cases lines with
      | nil => simpa using same
      | @cons second second' shown text same' lines =>
          rw [String.intercalate_cons_cons, String.intercalate_cons_cons]
          exact (same.append (shownAs_of_plain (by decide))).append ih

theorem forall₂_shownAs_map {α : Type} {entries : List α} {shown text : α → String}
    (each : ∀ entry ∈ entries, ShownAs (shown entry) (text entry)) :
    List.Forall₂ ShownAs (entries.map shown) (entries.map text) := by
  rw [List.forall₂_map_left_iff, List.forall₂_map_right_iff, List.forall₂_same]
  exact each

theorem forall₂_shownAs_flatMap {α : Type} {entries : List α} {shown text : α → List String}
    (each : ∀ entry ∈ entries, List.Forall₂ ShownAs (shown entry) (text entry)) :
    List.Forall₂ ShownAs (entries.flatMap shown) (entries.flatMap text) := by
  induction entries with
  | nil => exact .nil
  | cons entry rest ih =>
      rw [List.flatMap_cons, List.flatMap_cons]
      exact List.rel_append (each entry (by simp))
        (ih fun other member => each other (by simp [member]))

/-! ## Lists of notifications -/

theorem plain_getD {text : Option String} (plain : ∀ known ∈ text, Plain known) :
    Plain (text.getD "") := by
  cases text with
  | none => decide
  | some known => exact plain known rfl

theorem plain_age (now : Timestamp) (time : Option Timestamp) : Plain (age now time) := by
  cases time with
  | none =>
      change Plain "-"
      decide
  | some time =>
      have symbols : ∀ unit ∈ allUnits, Plain unit.2 := by decide
      exact (Plain.append_iff _ _).2
        ⟨Plain.natRepr _, symbols _ (CountedAge.ageUnit_mem _)⟩

theorem plain_typeLabel {kind : Option String} (plain : ∀ known ∈ kind, Plain known) :
    Plain (typeLabel kind) := by
  cases kind with
  | none => decide
  | some known =>
      rw [typeLabel]
      split
      · decide
      · exact Plain.lookup known (by decide) ((plain known rfl).take 2).upper

theorem plain_reasonMark (reason : Option String) : Plain (reasonMark reason) :=
  Plain.lookup _ (by decide) (by decide)

theorem plain_titleText {subject : Subject} (plain : ∀ title ∈ subject.title, Plain title) :
    Plain (titleText subject) := by
  apply Plain.take
  split
  · decide
  · exact plain_getD plain

theorem shownAs_mark (coloured shown : Bool) (style : Style) {text : String}
    (plain : Plain text) :
    ShownAs (mark coloured shown style text) (mark false shown style text) := by
  cases shown with
  | false =>
      have blank : Plain " " := by decide
      exact shownAs_of_plain blank
  | true => exact shownAs_paint coloured [style] plain

theorem shownAs_marks (coloured : Bool) (flags : Flags) :
    ShownAs (marks coloured flags) (marks false flags) :=
  ((shownAs_mark coloured _ _ (by decide)).append
    (shownAs_mark coloured _ _ (by decide))).append (shownAs_mark coloured _ _ (by decide))

theorem shownAs_stateText (coloured : Bool) {subject : Subject}
    (plain : ∀ state ∈ subject.state, Plain state) :
    ShownAs (stateText coloured subject) (stateText false subject) := by
  unfold stateText
  split
  · exact shownAs_of_plain (by decide)
  · next state known =>
      split
      · exact shownAs_of_plain (by decide)
      · have bracketed : Plain ("[" ++ state ++ "]") := by
          simp +decide [plain state known]
        exact (shownAs_of_plain (by decide)).append (shownAs_paint coloured _ bracketed)

/-- The texts of a notification that its line shows as they are. -/
def lineTexts (record : Notification) : List String :=
  record.subject.kind.toList ++ record.subject.title.toList ++ record.subject.state.toList ++
    record.repo.name.toList

theorem shownAs_line (coloured : Bool) (now : Timestamp) {record : Notification}
    (plain : ∀ text ∈ lineTexts record, Plain text) :
    ShownAs (line coloured now record) (line false now record) := by
  simp only [lineTexts, List.forall_mem_append, Option.mem_toList] at plain
  obtain ⟨⟨⟨kindPlain, titlePlain⟩, statePlain⟩, repoPlain⟩ := plain
  have gap : ShownAs " " " " := shownAs_of_plain (by decide)
  have wide : ShownAs "  " "  " := shownAs_of_plain (by decide)
  have number : Plain (Text.padLeft 8 (toString record.id)) := by simp
  have kind : Plain (Text.padRight 2 (typeLabel record.subject.kind)) := by
    simp [plain_typeLabel kindPlain]
  have age : Plain (Text.padLeft 4 (age now record.updatedAt)) := by simp [plain_age]
  have front := ((shownAs_of_plain number).append wide).append
    (shownAs_marks coloured record.flags)
  have kinds := ((front.append gap).append
    (shownAs_paint coloured (typeStyles record.subject.kind) kind)).append gap
  have reasons := (kinds.append
    (shownAs_paint coloured [.dim] (plain_reasonMark record.reason))).append gap
  have ages := (reasons.append (shownAs_paint coloured [.dim] age)).append wide
  have repos := (ages.append
    (shownAs_paint coloured [.brightBlack] (plain_getD repoPlain))).append wide
  exact (repos.append (shownAs_of_plain (plain_titleText titlePlain))).append
    (shownAs_stateText coloured statePlain)

theorem shownAs_heading (coloured : Bool) {text : String} (plain : Plain text) :
    ShownAs (heading coloured text) (heading false text) :=
  shownAs_paint coloured _ (by simp +decide [plain])

theorem shownAs_listing (coloured : Bool) (now : Timestamp) {header : String}
    {records : List Notification} (headerPlain : Plain header)
    (plain : ∀ record ∈ records, ∀ text ∈ lineTexts record, Plain text) :
    ShownAs (listing coloured now header records) (listing false now header records) := by
  unfold listing
  split
  · exact shownAs_paint coloured _ (by decide)
  · have title : Plain (header ++ " (" ++ toString records.length ++ ")") := by
      simp +decide [headerPlain]
    have lines := forall₂_shownAs_map fun record member =>
      shownAs_line coloured now (plain record member)
    exact shownAs_joinLines
      (.cons (shownAs_heading coloured title) (.cons (shownAs_of_plain (by decide)) lines))

/-! ## Overviews -/

theorem shownAs_countText (coloured : Bool) (name : String) (plain : Plain name)
    (count : Int) :
    ShownAs (countText coloured name count) (countText false name count) :=
  ((shownAs_of_plain plain).append (shownAs_of_plain (by decide))).append
    (shownAs_paint coloured _ (Plain.intRepr count))

theorem shownAs_countsLine (coloured : Bool) (counts : TabCounts) :
    ShownAs (countsLine coloured counts) (countsLine false counts) := by
  have wide : ShownAs "  " "  " := shownAs_of_plain (by decide)
  have inbox := shownAs_countText coloured "Inbox" (by decide) counts.inbox
  have starred := shownAs_countText coloured "Starred" (by decide) counts.starred
  have archived := shownAs_countText coloured "Archived" (by decide) counts.archived
  exact (((inbox.append wide).append starred).append wide).append archived

theorem shownAs_groupLine {value : String} (plain : Plain value) (count : Int) :
    ShownAs (groupLine value count) (groupLine value count) :=
  shownAs_of_plain (by simp +decide [groupLine, plain])

theorem forall₂_shownAs_groupLines (coloured : Bool) (title : String) {values : Groups}
    (titlePlain : Plain title) (plain : ∀ text ∈ values.map Prod.fst, Plain text) :
    List.Forall₂ ShownAs (groupLines coloured title values) (groupLines false title values) := by
  unfold groupLines
  split
  · exact .nil
  · exact .cons (shownAs_of_plain (by decide)) (.cons (shownAs_paint coloured _ titlePlain)
      (forall₂_shownAs_map fun value member =>
        shownAs_groupLine (plain value.1 (List.mem_map_of_mem member)) value.2))

theorem shownAs_repoLine (coloured : Bool) {short : String} (plain : Plain short)
    (count : Int) : ShownAs (repoLine coloured short count) (repoLine false short count) :=
  shownAs_paint coloured _ (by simp +decide [plain])

theorem mem_reposByOwner {totals : FacetTotals} {owner short : String}
    (member : short ∈ totals.reposOf owner) :
    short ∈ totals.reposByOwner.flatMap Prod.snd := by
  unfold FacetTotals.reposOf at member
  cases found : totals.reposByOwner.lookup owner with
  | none => simp [found] at member
  | some shorts =>
      rw [found] at member
      obtain ⟨before, after, known, -⟩ := List.lookup_eq_some_iff.1 found
      exact List.mem_flatMap.2 ⟨(owner, shorts), by simp [known], member⟩

theorem forall₂_shownAs_ownerLines (coloured : Bool) {totals : FacetTotals}
    (ownersPlain : ∀ text ∈ totals.owners.map Prod.fst, Plain text)
    (reposPlain : ∀ text ∈ totals.reposByOwner.flatMap Prod.snd, Plain text) :
    List.Forall₂ ShownAs (ownerLines coloured totals) (ownerLines false totals) := by
  unfold ownerLines
  split
  · exact .nil
  · refine .cons (shownAs_of_plain (by decide)) (.cons (shownAs_paint coloured _ (by decide))
      (forall₂_shownAs_flatMap fun owner member => ?_))
    exact .cons (shownAs_groupLine (ownersPlain owner.1 (List.mem_map_of_mem member)) owner.2)
      (forall₂_shownAs_map fun short present =>
        shownAs_repoLine coloured (reposPlain short (mem_reposByOwner present)) _)

/-- The texts of a division that are shown as they are. -/
def facetTexts (totals : FacetTotals) : List String :=
  totals.states.map Prod.fst ++ totals.types.map Prod.fst ++ totals.reasons.map Prod.fst ++
    (totals.owners.map Prod.fst ++ totals.reposByOwner.flatMap Prod.snd)

theorem shownAs_facets (coloured : Bool) {totals : FacetTotals}
    (plain : ∀ text ∈ facetTexts totals, Plain text) :
    ShownAs (facets coloured totals) (facets false totals) := by
  simp only [facetTexts, List.forall_mem_append] at plain
  obtain ⟨⟨⟨states, types⟩, reasons⟩, owners, repos⟩ := plain
  unfold facets
  split
  · exact shownAs_paint coloured _ (by decide)
  · have title : Plain "INBOX FACETS" := by decide
    have unread : Plain ("Unread " ++ toString totals.unread ++ "  Read " ++
        toString totals.read) := by simp +decide
    have humans : Plain ("Humans " ++ toString totals.humans ++ "  Bots " ++
        toString totals.bots) := by simp +decide
    have blank : Plain "" := by decide
    have numbers := List.Forall₂.cons (shownAs_heading coloured title)
      (.cons (shownAs_of_plain blank) (.cons (shownAs_of_plain unread)
        (.cons (shownAs_of_plain humans) .nil)))
    have status := forall₂_shownAs_groupLines coloured "Status" (by decide) states
    have kinds := forall₂_shownAs_groupLines coloured "Type" (by decide) types
    have why := forall₂_shownAs_groupLines coloured "Reason" (by decide) reasons
    exact shownAs_joinLines (List.rel_append (List.rel_append (List.rel_append
      (List.rel_append numbers status) kinds) why)
      (forall₂_shownAs_ownerLines coloured owners repos))

theorem plain_badge (count : Option Int) : Plain (badge count) := by
  cases count with
  | none => decide
  | some count => simp [badge]

theorem shownAs_pinnedLine (coloured : Bool) (count : Option Int) {search : PinnedSearch}
    (name : Plain search.name) (query : Plain search.query) :
    ShownAs (pinnedLine coloured (badge count) search)
      (pinnedLine false (badge count) search) := by
  have wide : ShownAs "  " "  " := shownAs_of_plain (by decide)
  exact ((((shownAs_of_plain (plain_badge count)).append wide).append
    (shownAs_paint coloured _ name)).append wide).append (shownAs_paint coloured _ query)

theorem shownAs_pinnedSearches (coloured : Bool) (counts : List (String × Option Int))
    {searches : List PinnedSearch}
    (plain : ∀ search ∈ searches, Plain search.name ∧ Plain search.query) :
    ShownAs (pinnedSearches coloured counts searches) (pinnedSearches false counts searches) := by
  unfold pinnedSearches pinnedList
  rw [List.isEmpty_map, List.isEmpty_map]
  split
  · exact shownAs_paint coloured _ (by decide)
  · exact shownAs_joinLines (.cons (shownAs_heading coloured (by decide))
      (.cons (shownAs_of_plain (by decide)) (forall₂_shownAs_map fun search member =>
        shownAs_pinnedLine coloured _ (plain search member).1 (plain search member).2)))

theorem shownAs_syncLine (coloured : Bool) (now : Timestamp) (sync : Option SyncStatus)
    (stale : Bool) :
    ShownAs (syncLine coloured now sync stale) (syncLine false now sync stale) := by
  unfold syncLine
  split
  · exact shownAs_paint coloured _ (by decide)
  · have remark : Plain (if stale then " (stale)" else "") := by cases stale <;> decide
    exact shownAs_paint coloured _ (by simp +decide [plain_age, remark])

theorem forall₂_shownAs_errorLines (coloured : Bool) {sync : Option SyncStatus}
    (plain : ∀ error ∈ sync.bind (·.error), Plain error) :
    List.Forall₂ ShownAs (errorLines coloured sync) (errorLines false sync) := by
  unfold errorLines
  split
  · exact .nil
  · next error known =>
      split
      · exact .nil
      · exact .cons (shownAs_paint coloured _ (by simp +decide [plain error known])) .nil

/-! ## Reports -/

/-- What a report is about. -/
inductive Sheet where
  | listing (now : Timestamp) (header : String) (records : List Notification)
  | tabs (counts : TabCounts)
  | facets (totals : FacetTotals)
  | pinned (counts : List (String × Option Int)) (searches : List PinnedSearch)
  | status (now : Timestamp) (counts : TabCounts) (sync : Option SyncStatus) (stale : Bool)
  deriving Repr

namespace Sheet

/-- The report, with colours or without them. -/
def text (coloured : Bool) : Sheet → String
  | .listing now header records => Report.listing coloured now header records
  | .tabs counts => countsLine coloured counts
  | .facets totals => Report.facets coloured totals
  | .pinned counts searches => pinnedSearches coloured counts searches
  | .status now counts sync stale => Report.status coloured now counts sync stale

/-- The texts that the report shows as they are. -/
def texts : Sheet → List String
  | .listing _ header records => header :: records.flatMap lineTexts
  | .tabs _ => []
  | .facets totals => facetTexts totals
  | .pinned _ searches => searches.map (·.name) ++ searches.map (·.query)
  | .status _ _ sync _ => (sync.bind (·.error)).toList

theorem shownAs_text (coloured : Bool) {sheet : Sheet}
    (plain : ∀ text ∈ sheet.texts, Plain text) :
    ShownAs (sheet.text coloured) (sheet.text false) := by
  cases sheet with
  | listing now header records =>
      simp only [texts, List.forall_mem_cons, List.mem_flatMap] at plain
      exact shownAs_listing coloured now plain.1 fun record member text known =>
        plain.2 text ⟨record, member, known⟩
  | tabs counts => exact shownAs_countsLine coloured counts
  | facets totals => exact shownAs_facets coloured plain
  | pinned counts searches =>
      simp only [texts, List.forall_mem_append, List.forall_mem_map] at plain
      exact shownAs_pinnedSearches coloured counts fun search member =>
        ⟨plain.1 search member, plain.2 search member⟩
  | status now counts sync stale =>
      simp only [texts, Option.mem_toList] at plain
      exact shownAs_joinLines (.cons (shownAs_countsLine coloured counts)
        (.cons (shownAs_syncLine coloured now sync stale)
          (forall₂_shownAs_errorLines coloured plain)))

/-- Without its escape sequences a report is the one that is written where colours are not
wanted. -/
theorem withoutStyles_text (machine colourless : Console.Machine) {wish : String}
    (asked : colourless.surroundings.given? "NO_COLOR" = some wish) {sheet : Sheet}
    (plain : ∀ text ∈ sheet.texts, Plain text) :
    withoutStyles (sheet.text machine.coloured) = sheet.text colourless.coloured := by
  have off : colourless.coloured = false := by rw [Console.Machine.coloured, asked]; rfl
  rw [off]
  exact (shownAs_text machine.coloured plain).withoutStyles_eq

/-- A list with a title that is cut and a type that no label is known for. -/
def cutSheet : Sheet :=
  .listing summerNoon "INBOX" [{
    id := 7
    subject := {
      title := some "Builds fail on every machine whose clock is set to a time before the release"
      kind := some "ßuild"
      state := some "open" }
    repo := { name := some "o/r" }
    reason := some "mention"
    updatedAt := some weeksBefore
    flags := { starred := true } }]

theorem withoutStyles_cutSheet :
    let colourful : Console.Machine := { now := summerNoon }
    let colourless : Console.Machine :=
      { now := summerNoon, surroundings := { environment := [("NO_COLOR", "1")] } }
    colourful.coloured = true ∧ colourless.surroundings.given? "NO_COLOR" = some "1" ∧
      (∀ text ∈ cutSheet.texts, Plain text) ∧
        withoutStyles (cutSheet.text colourful.coloured) =
          cutSheet.text colourless.coloured := by
  intro colourful colourless
  have asked : colourless.surroundings.given? "NO_COLOR" = some "1" := by decide
  have plain : ∀ text ∈ cutSheet.texts, Plain text := by decide
  exact ⟨by decide, asked, plain, withoutStyles_text colourful colourless asked plain⟩

end Sheet

end Report

end Triage
