import Mathlib.Algebra.BigOperators.Group.List.Lemmas
import Mathlib.Algebra.BigOperators.Ring.Finset
import Triage.Proofs.Keyed
import Triage.Proofs.Store.Order
import Triage.Store.Totals

/-!
# Groups

Grouping texts gives each text that occurs once, with the number of its
occurrences.  The numbers add up to that of all texts, and the largest come first.
-/

namespace Triage

variable {texts : List String} {text : String}

/-! ## Distinct texts -/

@[simp] theorem mem_distinctSorted : text ∈ distinctSorted texts ↔ text ∈ texts := by
  rw [distinctSorted, List.mem_mergeSort, List.mem_eraseDups]

theorem nodup_distinctSorted (texts : List String) : (distinctSorted texts).Nodup := by
  have keys := Keyed.nodup_ofList (texts.map fun text => (text, ()))
  rw [Keyed.map_fst_ofList, List.map_map] at keys
  have same : texts.map (Prod.fst ∘ fun text => (text, ())) = texts := List.map_id texts
  rw [same] at keys
  exact (List.mergeSort_perm _ _).nodup_iff.2 keys

theorem pairwise_distinctSorted (texts : List String) :
    (distinctSorted texts).Pairwise (· < ·) := by
  have sorted : (distinctSorted texts).Pairwise fun first second =>
      (!decide (second < first)) = true := by
    refine List.pairwise_mergeSort (fun first second third one two => ?_)
      (fun first second => ?_) _
    · rw [Bool.not_eq_true', decide_eq_false_iff_not, not_lt] at one two ⊢
      exact one.trans two
    · rw [Bool.or_eq_true, Bool.not_eq_true', Bool.not_eq_true', decide_eq_false_iff_not,
        decide_eq_false_iff_not, not_lt, not_lt]
      exact le_total first second
  refine (sorted.and (nodup_distinctSorted texts)).imp fun {first second} places => ?_
  obtain ⟨ordered, differ⟩ := places
  rw [Bool.not_eq_true', decide_eq_false_iff_not, not_lt] at ordered
  exact lt_of_le_of_ne ordered differ

/-! ## Texts with their numbers -/

theorem groupTexts_perm (texts : List String) :
    (groupTexts texts).Perm
      ((distinctSorted texts).map fun text => (text, (texts.count text : Int))) :=
  List.mergeSort_perm _ _

theorem map_fst_groupTexts_perm (texts : List String) :
    ((groupTexts texts).map Prod.fst).Perm (distinctSorted texts) := by
  have sorted := (groupTexts_perm texts).map Prod.fst
  rw [List.map_map] at sorted
  exact sorted.trans (.of_eq (List.map_id _))

/-- Every text is listed once. -/
theorem nodup_groupTexts (texts : List String) : ((groupTexts texts).map Prod.fst).Nodup :=
  (map_fst_groupTexts_perm texts).nodup_iff.2 (nodup_distinctSorted texts)

/-- The texts that occur are listed with the number of their occurrences. -/
theorem mem_groupTexts {entry : String × Int} :
    entry ∈ groupTexts texts ↔ entry.1 ∈ texts ∧ entry.2 = texts.count entry.1 := by
  rw [(groupTexts_perm texts).mem_iff, List.mem_map]
  constructor
  · rintro ⟨text, member, rfl⟩
    exact ⟨mem_distinctSorted.1 member, rfl⟩
  · rintro ⟨member, counted⟩
    exact ⟨entry.1, mem_distinctSorted.2 member, by rw [← counted]⟩

theorem mem_map_fst_groupTexts : text ∈ (groupTexts texts).map Prod.fst ↔ text ∈ texts := by
  rw [(map_fst_groupTexts_perm texts).mem_iff, mem_distinctSorted]

/-- No listed text is missing. -/
theorem groupTexts_pos {entry : String × Int} (member : entry ∈ groupTexts texts) :
    0 < entry.2 := by
  obtain ⟨occurs, counted⟩ := mem_groupTexts.1 member
  have positive := List.count_pos_iff.2 occurs
  omega

theorem groupTexts_ne_zero {entry : String × Int} (member : entry ∈ groupTexts texts) :
    entry.2 ≠ 0 :=
  (groupTexts_pos member).ne'

/-- Looking up any text gives the number of its occurrences. -/
theorem lookup_groupTexts (texts : List String) (text : String) :
    ((groupTexts texts).lookup text).getD 0 = texts.count text := by
  by_cases occurs : text ∈ texts
  · have listed : (text, (texts.count text : Int)) ∈ groupTexts texts :=
      mem_groupTexts.2 ⟨occurs, rfl⟩
    rw [Keyed.lookup_of_mem (nodup_groupTexts texts) listed]
    rfl
  · rw [Keyed.lookup_eq_none_of_not_mem (mt mem_map_fst_groupTexts.1 occurs),
      List.count_eq_zero_of_not_mem occurs]
    rfl

/-! ## Sums and order -/

/-- The occurrences of distinct texts add up to the occurrences of any of them. -/
theorem sum_map_count {names : List String} (distinct : names.Nodup)
    (occur : ∀ name ∈ names, name ∈ texts) :
    (names.map fun name => texts.count name).sum = texts.countP fun text => text ∈ names := by
  have same : (texts.dedup.filter fun text => text ∈ names).Perm names := by
    rw [List.perm_ext_iff_of_nodup ((List.nodup_dedup texts).filter _) distinct]
    intro name
    simpa using occur name
  rw [← List.sum_map_count_dedup_filter_eq_countP]
  exact (same.map _).sum_eq.symm

/-- The numbers of the groups add up to the number of the texts. -/
theorem sum_groupTexts (texts : List String) :
    ((groupTexts texts).map Prod.snd).sum = texts.length := by
  have numbers : ((groupTexts texts).map Prod.snd).Perm
      ((distinctSorted texts).map fun text => (texts.count text : Int)) := by
    have sorted := (groupTexts_perm texts).map Prod.snd
    rwa [List.map_map] at sorted
  have counted := sum_map_count (nodup_distinctSorted texts)
    fun _ => mem_distinctSorted.1
  rw [List.countP_eq_length.2 fun text member => decide_eq_true (mem_distinctSorted.2 member)]
    at counted
  rw [numbers.sum_eq, ← counted, Nat.cast_list_sum, List.map_map]
  rfl

/-- Larger groups come first, groups of the same number in the order of their texts. -/
theorem pairwise_groupTexts (texts : List String) :
    (groupTexts texts).Pairwise fun first second =>
      second.2 < first.2 ∨ first.2 = second.2 ∧ first.1 < second.1 := by
  have ascending : ((distinctSorted texts).map fun text =>
      (text, (texts.count text : Int))).Pairwise fun first second => first.1 < second.1 :=
    List.pairwise_map.2 (pairwise_distinctSorted texts)
  have trans (first second third : String × Int) (one : decide (second.2 ≤ first.2) = true)
      (two : decide (third.2 ≤ second.2) = true) : decide (third.2 ≤ first.2) = true := by
    rw [decide_eq_true_eq] at one two ⊢
    exact two.trans one
  have total (first second : String × Int) :
      (decide (second.2 ≤ first.2) || decide (first.2 ≤ second.2)) = true := by
    rw [Bool.or_eq_true, decide_eq_true_eq, decide_eq_true_eq]
    exact le_total second.2 first.2
  have stable := StableSort.pairwise_of_pairwise trans total ascending
  refine stable.imp fun {first second} places => ?_
  rw [decide_eq_true_eq, decide_eq_true_eq] at places
  obtain ⟨fewer, tied⟩ := places
  rcases fewer.lt_or_eq with less | same
  · exact .inl less
  · exact .inr ⟨same.symm, tied same.ge⟩

end Triage
