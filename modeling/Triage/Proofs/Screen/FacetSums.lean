import Mathlib.Algebra.BigOperators.Ring.Finset
import Triage.Proofs.Screen.FacetCounts
import Triage.Proofs.Text.Words

/-!
# Sums of groups

The inbox is divided several times: by what is read, by programs and people, and by
the values of each field.  Every division adds up to the number on the tab of the
inbox.  An owner's number is divided once more, among the repositories below the owner.
-/

namespace Triage

/-! ## Repositories below their owners -/

/-- A repository with an owner is named after the owner and a last part. -/
def Repo.OwnedName (repo : Repo) : Prop :=
  ∀ owner, repo.owner = some owner →
    ∃ short, repo.name = some (owner ++ "/" ++ short) ∧ '/' ∉ short.toList

namespace FacetTotals

variable {repos : List Repo} {repo : Repo} {owner short : String}

/-- The last parts of the names of an owner's repositories. -/
def shortsOf (repos : List Repo) (owner : String) : List String :=
  distinctSorted (((repos.filterMap ownerAndShort?).filter fun pair =>
    pair.1 == owner).map Prod.snd)

theorem mem_shortsOf : short ∈ shortsOf repos owner ↔
    ∃ repo ∈ repos, ownerAndShort? repo = some (owner, short) := by
  rw [shortsOf, mem_distinctSorted, List.mem_map]
  constructor
  · rintro ⟨pair, member, rfl⟩
    obtain ⟨listed, same⟩ := List.mem_filter.1 member
    obtain ⟨repo, present, given⟩ := List.mem_filterMap.1 listed
    obtain rfl := beq_iff_eq.1 same
    exact ⟨repo, present, given⟩
  · rintro ⟨repo, present, given⟩
    exact ⟨(owner, short), List.mem_filter.2
      ⟨List.mem_filterMap.2 ⟨repo, present, given⟩, beq_self_eq_true owner⟩, rfl⟩

/-- An owner with a repository is listed with the last parts of all names. -/
theorem lookup_shortNames (present : repo ∈ repos)
    (given : ownerAndShort? repo = some (owner, short)) :
    (shortNames repos).lookup owner = some (shortsOf repos owner) := by
  have keys : (shortNames repos).map Prod.fst =
      distinctSorted ((repos.filterMap ownerAndShort?).map Prod.fst) := by
    rw [shortNames, List.map_map]
    exact List.map_id _
  have listed : (owner, shortsOf repos owner) ∈ shortNames repos := by
    refine List.mem_map.2 ⟨owner, mem_distinctSorted.2 ?_, rfl⟩
    exact List.mem_map.2 ⟨(owner, short), List.mem_filterMap.2 ⟨repo, present, given⟩, rfl⟩
  have distinct : ((shortNames repos).map Prod.fst).Nodup :=
    keys ▸ nodup_distinctSorted _
  exact Keyed.lookup_of_mem distinct listed

theorem ownerAndShort?_eq_some : ownerAndShort? repo = some (owner, short) ↔
    repo.owner = some owner ∧ ∃ name, repo.name = some name ∧ Text.afterLastSlash name = short := by
  simp [ownerAndShort?, Option.bind_eq_some_iff]

/-- Names put together from an owner and a last part differ if the owners do. -/
theorem owner_eq_of_name_eq {other last : String} (apart : '/' ∉ short.toList)
    (elsewhere : '/' ∉ last.toList)
    (same : owner ++ "/" ++ short = other ++ "/" ++ last) : owner = other := by
  have shorts : short = last := by
    rw [← Text.afterLastSlash_append owner apart, same, Text.afterLastSlash_append other elsewhere]
  subst shorts
  rwa [String.append_left_inj, String.append_left_inj] at same

/-- Below an owner are the last parts of names that begin with the owner. -/
theorem mem_shortsOf_of_owned (owned : ∀ repo ∈ repos, repo.OwnedName) :
    short ∈ shortsOf repos owner ↔ '/' ∉ short.toList ∧
      ∃ repo ∈ repos, repo.owner = some owner ∧ repo.name = some (owner ++ "/" ++ short) := by
  rw [mem_shortsOf]
  constructor
  · rintro ⟨repo, present, given⟩
    obtain ⟨owns, name, named, rfl⟩ := ownerAndShort?_eq_some.1 given
    obtain ⟨last, called, apart⟩ := owned repo present owner owns
    obtain rfl : name = owner ++ "/" ++ last := Option.some.inj (named.symm.trans called)
    rw [Text.afterLastSlash_append owner apart]
    exact ⟨apart, repo, present, owns, called⟩
  · rintro ⟨apart, repo, present, owns, named⟩
    exact ⟨repo, present, ownerAndShort?_eq_some.2
      ⟨owns, _, named, Text.afterLastSlash_append owner apart⟩⟩

/-- The repositories listed below an owner are those of the owner, and those without
an owner that have the name of one of them. -/
theorem sum_counts_shortsOf (owned : ∀ repo ∈ repos, repo.OwnedName) (owner : String) :
    ((shortsOf repos owner).map fun short =>
        (repos.filterMap Repo.name).count (owner ++ "/" ++ short)).sum =
      (repos.filterMap Repo.owner).count owner +
        repos.countP fun repo => repo.owner = none ∧
          ∃ short ∈ shortsOf repos owner, repo.name = some (owner ++ "/" ++ short) := by
  have distinct : ((shortsOf repos owner).map fun short => owner ++ "/" ++ short).Nodup :=
    (nodup_distinctSorted _).map fun _ _ same => (String.append_right_inj _).1 same
  have occur : ∀ name ∈ (shortsOf repos owner).map fun short => owner ++ "/" ++ short,
      name ∈ repos.filterMap Repo.name := by
    intro name member
    obtain ⟨short, listed, rfl⟩ := List.mem_map.1 member
    obtain ⟨_, repo, present, _, named⟩ := (mem_shortsOf_of_owned owned).1 listed
    exact List.mem_filterMap.2 ⟨repo, present, named⟩
  have listed (repo : Repo) :
      ((repo.name.map fun name =>
        decide (name ∈ (shortsOf repos owner).map fun short => owner ++ "/" ++ short)).getD false =
          true) ↔ ∃ short ∈ shortsOf repos owner, repo.name = some (owner ++ "/" ++ short) := by
    cases repo.name with
    | none => simp
    | some name => simp [eq_comm]
  have counted := sum_map_count distinct occur
  rw [List.map_map] at counted
  refine counted.trans ?_
  rw [List.countP_filterMap, List.count_filterMap,
    List.countP_eq_countP_filter_add _ _ fun repo => repo.owner == some owner,
    List.countP_filter, List.countP_filter]
  congr 1
  · -- The owner's repositories are all listed.
    apply List.countP_congr
    intro repo present
    rw [Bool.and_eq_true, listed, beq_iff_eq, and_iff_right_iff_imp]
    intro owns
    obtain ⟨short, named, apart⟩ := owned repo present owner owns
    exact ⟨short, (mem_shortsOf_of_owned owned).2 ⟨apart, repo, present, owns, named⟩, named⟩
  · -- No repository of another owner is.
    apply List.countP_congr
    intro repo present
    rw [Bool.and_eq_true, listed, Bool.not_eq_true', beq_eq_false_iff_ne, decide_eq_true_eq,
      and_comm, and_congr_left_iff]
    rintro ⟨short, below, named⟩
    have apart := ((mem_shortsOf_of_owned owned).1 below).1
    cases owns : repo.owner with
    | none => simp
    | some other =>
        obtain ⟨last, called, elsewhere⟩ := owned repo present other owns
        have same := owner_eq_of_name_eq apart elsewhere
          (Option.some.inj (named.symm.trans called))
        simp [same]

end FacetTotals

/-! ## Divisions of the inbox -/

/-- The kinds of facet whose values are texts. -/
def FacetKind.textKinds : List FacetKind := [.owner, .repo, .subjectType, .reason, .subjectState]

/-- The groups of a division by a field that holds texts. -/
def FacetTotals.groupsOf (totals : FacetTotals) : FacetKind → Groups
  | .owner => totals.owners
  | .repo => totals.repos
  | .subjectType => totals.types
  | .reason => totals.reasons
  | .subjectState => totals.states
  | .unread => []
  | .bot => []

namespace FacetTotals

variable {rows : List Row} {kind : FacetKind}

/-- The groups of a field are those of the texts that rows have in it. -/
theorem groupsOf_ofRows (rows : List Row) (text : kind ∈ FacetKind.textKinds) :
    ∃ field : Row → Option String, (∀ row, row.facetValue kind = (field row).map .text) ∧
      (ofRows rows).groupsOf kind = groupTexts (rows.filterMap field) := by
  cases kind with
  | unread => exact absurd text (by decide)
  | bot => exact absurd text (by decide)
  | _ => exact ⟨_, fun _ => rfl, rfl⟩

theorem sum_groupsOf (rows : List Row) (text : kind ∈ FacetKind.textKinds) :
    (((ofRows rows).groupsOf kind).map Prod.snd).sum +
      rows.countP (fun row => row.facetValue kind = none) = rows.length := by
  obtain ⟨field, known, groups⟩ := groupsOf_ofRows rows text
  have lacking : rows.countP (fun row => row.facetValue kind = none) =
      rows.countP fun row => ¬ (field row).isSome := by
    apply List.countP_congr
    intro row _
    simp [known row]
  have parts := rows.length_eq_countP_add_countP fun row => (field row).isSome
  rw [groups, sum_groupTexts, List.length_filterMap_eq_countP, lacking]
  exact_mod_cast parts.symm

theorem pos_of_mem_groupsOf (text : kind ∈ FacetKind.textKinds) {entry : String × Int}
    (member : entry ∈ (ofRows rows).groupsOf kind) : 1 ≤ entry.2 := by
  obtain ⟨field, _, groups⟩ := groupsOf_ofRows rows text
  exact groupTexts_pos (groups ▸ member)

theorem pairwise_groupsOf (rows : List Row) (text : kind ∈ FacetKind.textKinds) :
    ((ofRows rows).groupsOf kind).Pairwise fun first second =>
      second.2 < first.2 ∨ first.2 = second.2 ∧ first.1 < second.1 := by
  obtain ⟨field, _, groups⟩ := groupsOf_ofRows rows text
  rw [groups]
  exact pairwise_groupTexts _

/-- Every value has one group. -/
theorem nodup_groupsOf (rows : List Row) (text : kind ∈ FacetKind.textKinds) :
    (((ofRows rows).groupsOf kind).map Prod.fst).Nodup := by
  obtain ⟨field, _, groups⟩ := groupsOf_ofRows rows text
  rw [groups]
  exact nodup_groupTexts _

theorem unread_add_read (rows : List Row) :
    (ofRows rows).unread + (ofRows rows).read = rows.length := by
  have parts := rows.length_eq_countP_add_countP fun row => row.flags.unread
  simp only [Bool.not_eq_true, Bool.decide_eq_false] at parts
  simp only [ofRows]
  omega

theorem bots_add_humans (rows : List Row) :
    (ofRows rows).bots + (ofRows rows).humans = rows.length := by
  simp only [ofRows]
  omega

/-- What is listed below an owner with a number. -/
theorem exists_lookup_reposByOwner (owned : ∀ row ∈ rows, row.repo.OwnedName)
    {entry : String × Int} (member : entry ∈ (ofRows rows).owners) :
    ∃ shorts, (ofRows rows).reposByOwner.lookup entry.1 = some shorts ∧
      shorts.Pairwise (· < ·) ∧
      (∀ short ∈ shorts, entry.1 ++ "/" ++ short ∈ (ofRows rows).repos.map Prod.fst) ∧
      (shorts.map fun short => (ofRows rows).countOfRepo (entry.1 ++ "/" ++ short)).sum =
        entry.2 + rows.countP fun row => row.repo.owner = none ∧
          ∃ short ∈ shorts, row.repo.name = some (entry.1 ++ "/" ++ short) := by
  obtain ⟨owner, number⟩ := entry
  have every : ∀ repo ∈ rows.map Row.repo, repo.OwnedName := by
    simpa using owned
  obtain ⟨occurs, counted⟩ := mem_groupTexts.1 member
  obtain ⟨row, present, owns⟩ := List.mem_filterMap.1 occurs
  obtain ⟨short, named, apart⟩ := owned row present owner owns
  have given : ownerAndShort? row.repo = some (owner, short) :=
    ownerAndShort?_eq_some.2 ⟨owns, _, named, Text.afterLastSlash_append owner apart⟩
  refine ⟨shortsOf (rows.map Row.repo) owner,
    lookup_shortNames (List.mem_map_of_mem present) given, pairwise_distinctSorted _, ?_, ?_⟩
  · intro short below
    obtain ⟨_, repo, listed, _, called⟩ := (mem_shortsOf_of_owned every).1 below
    obtain ⟨row, present, rfl⟩ := List.mem_map.1 listed
    exact mem_map_fst_groupTexts.2 (List.mem_filterMap.2 ⟨row, present, called⟩)
  · have sum := sum_counts_shortsOf every owner
    simp only [List.filterMap_map, List.countP_map, Function.comp_def] at sum
    rw [counted]
    simp only [countOfRepo, ofRows, lookup_groupTexts]
    rw [← Nat.cast_add, ← sum, Nat.cast_list_sum, List.map_map]
    rfl

end FacetTotals

theorem Row.Sound.repo_read {row : Row} (sound : row.Sound) : row.read.repo = row.repo := by
  obtain ⟨record, utc, rfl⟩ := sound.written
  rw [read_written utc]
  rfl

namespace Store

variable {store : Store}

/-- What is counted in the inbox can be counted in its rows. -/
theorem countP_shown_inbox {test : Notification → Bool} {known : Row → Bool}
    (same : ∀ row ∈ store.inboxRows, test row.read = known row) :
    (store.shown .inbox).countP test = store.inboxRows.countP known := by
  rw [(store.shown_perm .inbox).countP_eq, List.countP_map]
  exact List.countP_congr fun row member => by rw [Function.comp_apply, same row member]

/-- The inbox has the repositories of its rows. -/
theorem Sound.map_repo_shown_perm (sound : store.Sound) :
    ((store.shown .inbox).map Notification.repo).Perm (store.inboxRows.map Row.repo) := by
  refine ((store.shown_perm .inbox).map _).trans (.of_eq ?_)
  rw [List.map_map]
  exact List.map_congr_left fun row member => (sound.of_mem_inboxRows member).repo_read

theorem Sound.countP_lacking (sound : store.Sound) {kind : FacetKind}
    (text : kind ∈ FacetKind.textKinds) :
    (store.shown .inbox).countP (fun record => Facet.valueIn record kind = none) =
      store.inboxRows.countP fun row => row.facetValue kind = none := by
  have texts : kind ≠ .bot := by
    rintro rfl
    exact absurd text (by decide)
  apply countP_shown_inbox
  intro row member
  rw [(sound.of_mem_inboxRows member).valueIn_read fun bot => absurd bot texts]

/-- The number on the tab of the inbox is that of the rows that are divided. -/
theorem counts_inbox (store : Store) :
    store.notifications.counts.inbox = store.inboxRows.length := by
  rw [Table.counts, inboxRows, List.countP_eq_length_filter]

/-- After any writes to a new store the inbox, the counts and the division of the
inbox can be read.  The number of the inbox is divided by what is read, by programs
and people, and by the values of each field, together with the notifications that lack
the field.  No group is empty, each value has one, and they are in the order of their
numbers and values.  If every repository with an owner is named after the owner, the
numbers of the repositories listed below an owner add up to the owner's, together with
the notifications that give the name of one of them without an owner. -/
theorem facet_groups_add_up (writes : List Write) :
    ∃ store inbox tabs division, afterWrites writes = .intact store ∧
      (loadNamed "inbox").run (.intact store) = (.ok inbox, .intact store) ∧
      counts.run (.intact store) = (.ok tabs, .intact store) ∧
      totals.run (.intact store) = (.ok division, .intact store) ∧
      division.unread + division.read = tabs.inbox ∧
      division.bots + division.humans = tabs.inbox ∧
      (∀ kind ∈ FacetKind.textKinds,
        ((division.groupsOf kind).map Prod.snd).sum +
            inbox.countP (fun record => Facet.valueIn record kind = none) = tabs.inbox ∧
          (∀ entry ∈ division.groupsOf kind, 1 ≤ entry.2) ∧
          ((division.groupsOf kind).map Prod.fst).Nodup ∧
          (division.groupsOf kind).Pairwise fun first second =>
            second.2 < first.2 ∨ first.2 = second.2 ∧ first.1 < second.1) ∧
      ((∀ record ∈ inbox, record.repo.OwnedName) →
        ∀ entry ∈ division.owners, ∃ shorts,
          division.reposByOwner.lookup entry.1 = some shorts ∧
          shorts.Pairwise (· < ·) ∧
          (∀ short ∈ shorts, entry.1 ++ "/" ++ short ∈ division.repos.map Prod.fst) ∧
          (shorts.map fun short => division.countOfRepo (entry.1 ++ "/" ++ short)).sum =
            entry.2 + inbox.countP fun record => record.repo.owner = none ∧
              ∃ short ∈ shorts, record.repo.name = some (entry.1 ++ "/" ++ short)) := by
  obtain ⟨store, written, sound⟩ := exists_sound_afterWrites writes
  refine ⟨store, store.shown .inbox, store.notifications.counts,
    FacetTotals.ofRows store.inboxRows, written, sound.run_loadNamed .inbox, run_counts store,
    run_totals store, ?_, ?_, fun kind text => ⟨?_, ?_, ?_, ?_⟩, fun owned entry member => ?_⟩
  · rw [counts_inbox, FacetTotals.unread_add_read]
  · rw [counts_inbox, FacetTotals.bots_add_humans]
  · rw [counts_inbox, sound.countP_lacking text, FacetTotals.sum_groupsOf _ text]
  · exact fun entry member => FacetTotals.pos_of_mem_groupsOf text member
  · exact FacetTotals.nodup_groupsOf _ text
  · exact FacetTotals.pairwise_groupsOf _ text
  · have rows : ∀ row ∈ store.inboxRows, row.repo.OwnedName := by
      intro row present
      obtain ⟨record, member, same⟩ := List.mem_map.1
        (sound.map_repo_shown_perm.mem_iff.2 (List.mem_map_of_mem present))
      exact same ▸ owned record member
    obtain ⟨shorts, below, ascending, listed, sum⟩ :=
      FacetTotals.exists_lookup_reposByOwner rows member
    refine ⟨shorts, below, ascending, listed, ?_⟩
    rw [sum, countP_shown_inbox fun row present => by
      rw [(sound.of_mem_inboxRows present).repo_read]]

/-- A notification of a repository with its owner, and one that names the same
repository without an owner. -/
def ownerlessWrites : List Write :=
  [.replaceAll ⟨63852840000000000, some 0, by decide⟩
    [{ id := 1, repo := { name := "x/y", owner := "x" } }, { id := 2, repo := { name := "x/y" } }]]

/-- The repository has both, its owner only one of them. -/
theorem ownerless_counted_below_owner :
    ∃ store inbox division, afterWrites ownerlessWrites = .intact store ∧
      (loadNamed "inbox").run (.intact store) = (.ok inbox, .intact store) ∧
      totals.run (.intact store) = (.ok division, .intact store) ∧
      (∀ record ∈ inbox, record.repo.OwnedName) ∧
      ("x", 1) ∈ division.owners ∧
      division.reposByOwner.lookup "x" = some ["y"] ∧
      (["y"].map fun short => division.countOfRepo ("x" ++ "/" ++ short)).sum = 2 := by
  obtain ⟨store, written, sound⟩ := exists_sound_afterWrites ownerlessWrites
  have repos : store.inboxRows.map Row.repo =
      [{ name := "x/y", owner := "x" }, { name := "x/y" }] := by
    cases written
    rfl
  have owners : store.inboxRows.filterMap (fun row => row.repo.owner) = ["x"] := by
    cases written
    rfl
  have names : store.inboxRows.filterMap (fun row => row.repo.name) = ["x/y", "x/y"] := by
    cases written
    rfl
  refine ⟨store, store.shown .inbox, FacetTotals.ofRows store.inboxRows, written,
    sound.run_loadNamed .inbox, run_totals store, fun record member owner owns => ?_, ?_, ?_, ?_⟩
  · have listed := sound.map_repo_shown_perm.mem_iff.1
      (List.mem_map_of_mem (f := Notification.repo) member)
    rw [repos, List.mem_pair] at listed
    rcases listed with same | same <;> rw [same] at owns ⊢ <;> cases owns
    exact ⟨"y", rfl, by decide⟩
  · exact mem_groupTexts.2 (by rw [owners]; decide)
  · simp only [FacetTotals.ofRows, repos]
    decide +kernel
  · simp only [FacetTotals.countOfRepo, FacetTotals.ofRows, lookup_groupTexts, names]
    decide

end Store

end Triage
