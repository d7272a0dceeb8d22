import Mathlib.Data.List.Induction
import Triage.Keyed

/-!
# The last item of a key

Where a list gives several items of one key, the last one counts: for lists of
entries under keys, and for the rows that are written into a table one after the
other.
-/

namespace Triage.Keyed

variable {α β κ : Type}

/-- No later item of the list has the key of this one. -/
def IsLast (key : α → κ) (items : List α) (item : α) : Prop :=
  ∃ earlier later, items = earlier ++ item :: later ∧ ∀ other ∈ later, key other ≠ key item

@[simp] theorem not_isLast_nil (key : α → κ) (item : α) : ¬ IsLast key [] item := by
  rintro ⟨earlier, later, split, _⟩
  simp at split

/-- With one more item, this item is the last of its key, and those of other keys
stay so. -/
theorem isLast_append_singleton {key : α → κ} {items : List α} {next item : α} :
    IsLast key (items ++ [next]) item ↔
      item = next ∨ (IsLast key items item ∧ key item ≠ key next) := by
  constructor
  · rintro ⟨earlier, later, split, latest⟩
    rcases List.eq_nil_or_concat later with rfl | ⟨rest, final, rfl⟩
    · exact .inl (List.head_eq_of_cons_eq (List.append_inj' split rfl).2).symm
    · rw [List.concat_eq_append, ← List.cons_append, ← List.append_assoc] at split
      obtain ⟨same, ends⟩ := List.append_inj' split rfl
      cases ends
      refine .inr ⟨⟨earlier, rest, same, fun other member => latest other ?_⟩, ?_⟩
      · simp [member]
      · exact (latest next (by simp)).symm
  · rintro (rfl | ⟨⟨earlier, later, rfl, latest⟩, differs⟩)
    · exact ⟨items, [], rfl, by simp⟩
    · refine ⟨earlier, later ++ [next], by simp, fun other member => ?_⟩
      rcases List.mem_append.1 member with old | new
      · exact latest other old
      · rw [List.mem_singleton.1 new]
        exact differs.symm

theorem IsLast.mem {key : α → κ} {items : List α} {item : α} (last : IsLast key items item) :
    item ∈ items := by
  obtain ⟨earlier, later, rfl, _⟩ := last
  simp

/-- Every key of a list has a last item. -/
theorem exists_isLast {key : α → κ} {items : List α} {item : α} (member : item ∈ items) :
    ∃ last, IsLast key items last ∧ key last = key item := by
  induction items using List.reverseRecOn with
  | nil => simp at member
  | append_singleton items next ih =>
      by_cases same : key item = key next
      · exact ⟨next, isLast_append_singleton.2 (.inl rfl), same.symm⟩
      · have old : item ∈ items := by
          rcases List.mem_append.1 member with old | new
          · exact old
          · exact absurd (congrArg key (List.mem_singleton.1 new)) same
        obtain ⟨last, latest, equal⟩ := ih old
        exact ⟨last, isLast_append_singleton.2 (.inr ⟨latest, equal ▸ same⟩), equal⟩

/-- Where no key occurs twice, every item is the last of its key. -/
theorem isLast_iff_mem {key : α → κ} {items : List α} (distinct : (items.map key).Nodup)
    {item : α} : IsLast key items item ↔ item ∈ items := by
  constructor
  · exact IsLast.mem
  · intro member
    obtain ⟨earlier, later, rfl⟩ := List.append_of_mem member
    refine ⟨earlier, later, rfl, fun other present same => ?_⟩
    rw [List.map_append, List.map_cons] at distinct
    have apart := (List.nodup_cons.1 (List.nodup_append.1 distinct).2.1).1
    exact apart (same ▸ List.mem_map_of_mem present)

/-- The last items of a list of images are the images of the last items. -/
theorem isLast_map {key : β → κ} {image : α → β} {items : List α} {result : β} :
    IsLast key (items.map image) result ↔
      ∃ item, IsLast (fun item => key (image item)) items item ∧ result = image item := by
  constructor
  · rintro ⟨earlier, later, split, latest⟩
    obtain ⟨before, rest, rfl, rfl, tail⟩ := List.map_eq_append_iff.1 split
    obtain ⟨item, after, rfl, rfl, rfl⟩ := List.map_eq_cons_iff.1 tail
    refine ⟨item, ⟨before, after, rfl, fun other member => ?_⟩, rfl⟩
    exact latest _ (List.mem_map_of_mem member)
  · rintro ⟨item, ⟨earlier, later, rfl, latest⟩, rfl⟩
    refine ⟨earlier.map image, later.map image, by simp, fun other member => ?_⟩
    obtain ⟨source, present, rfl⟩ := List.mem_map.1 member
    exact latest source present

/-! ## Entries under keys -/

variable [BEq κ] [LawfulBEq κ]

omit [LawfulBEq κ] in
theorem ofList_append_singleton (entries : List (κ × β)) (entry : κ × β) :
    ofList (entries ++ [entry]) = put (ofList entries) entry.1 entry.2 := by
  simp [ofList]

/-- An entry is there after setting a key exactly if it is the one set or an old
one of another key. -/
theorem mem_put {entries : List (κ × β)} (distinct : (entries.map Prod.fst).Nodup)
    {key : κ} {value : β} {entry : κ × β} :
    entry ∈ put entries key value ↔ entry = (key, value) ∨ (entry ∈ entries ∧ entry.1 ≠ key) := by
  induction entries with
  | nil => simp [put]
  | cons head rest ih =>
      obtain ⟨apart, others⟩ := List.nodup_cons.1 distinct
      have elsewhere (member : entry ∈ rest) : entry.1 ≠ head.1 := fun same =>
        apart (same ▸ List.mem_map_of_mem member)
      rw [put]
      split
      · next known =>
          have same : head.1 = key := by simpa using known
          subst same
          simp only [List.mem_cons]
          constructor
          · rintro (equal | member)
            · exact .inl equal
            · exact .inr ⟨.inr member, elsewhere member⟩
          · rintro (equal | ⟨rfl | member, differs⟩)
            · exact .inl equal
            · contradiction
            · exact .inr member
      · next unknown =>
          have differs : head.1 ≠ key := by simpa using unknown
          simp only [List.mem_cons, ih others]
          constructor
          · rintro (rfl | equal | ⟨member, other⟩)
            · exact .inr ⟨.inl rfl, differs⟩
            · exact .inl equal
            · exact .inr ⟨.inr member, other⟩
          · rintro (equal | ⟨equal | member, other⟩)
            · exact .inr (.inl equal)
            · exact .inl equal
            · exact .inr (.inr ⟨member, other⟩)

/-- The keys are the distinct ones in the order of first appearance. -/
theorem map_fst_ofList (entries : List (κ × β)) :
    (ofList entries).map Prod.fst = (entries.map Prod.fst).eraseDups := by
  induction entries using List.reverseRecOn with
  | nil => rfl
  | append_singleton entries entry ih =>
      rw [ofList_append_singleton, map_fst_put, ih, List.map_append, List.map_singleton,
        List.eraseDups_append]
      by_cases known : entry.1 ∈ entries.map Prod.fst <;>
        simp [List.removeAll, List.eraseDups_cons, known]

omit [LawfulBEq κ] in
/-- A new key is put behind the others. -/
theorem put_of_not_mem {entries : List (κ × β)} {key : κ} (value : β)
    (new : ∀ entry ∈ entries, (entry.1 == key) = false) :
    put entries key value = entries ++ [(key, value)] := by
  induction entries with
  | nil => rfl
  | cons entry rest ih =>
      rw [put, if_neg (by simp [new entry (by simp)]),
        ih fun other member => new other (by simp [member]), List.cons_append]

/-- Entries under different keys stay as they are. -/
theorem ofList_of_nodup {entries : List (κ × β)} (distinct : (entries.map Prod.fst).Nodup) :
    ofList entries = entries := by
  induction entries using List.reverseRecOn with
  | nil => rfl
  | append_singleton entries entry ih =>
      rw [List.map_append, List.nodup_append] at distinct
      obtain ⟨distinct, _, apart⟩ := distinct
      rw [ofList_append_singleton, ih distinct, put_of_not_mem]
      intro known member
      exact beq_false_of_ne (apart known.1 (List.mem_map_of_mem member) entry.1 (by simp))

/-- Keys of which none occurs twice stay in their order. -/
theorem map_fst_ofList_of_nodup {entries : List (κ × β)}
    (distinct : (entries.map Prod.fst).Nodup) :
    (ofList entries).map Prod.fst = entries.map Prod.fst := by
  rw [ofList_of_nodup distinct]

theorem nodup_put {entries : List (κ × β)} (distinct : (entries.map Prod.fst).Nodup) (key : κ)
    (value : β) : ((put entries key value).map Prod.fst).Nodup := by
  rw [map_fst_put]
  split
  · exact distinct
  · next unknown =>
      refine List.nodup_append.2 ⟨distinct, by simp, fun known member new added same => ?_⟩
      rw [List.mem_singleton] at added
      subst added same
      exact unknown (List.contains_iff_mem.2 member)

/-- No key occurs twice. -/
theorem nodup_ofList (entries : List (κ × β)) : ((ofList entries).map Prod.fst).Nodup := by
  induction entries using List.reverseRecOn with
  | nil => simp [ofList]
  | append_singleton entries entry ih =>
      rw [ofList_append_singleton]
      exact nodup_put ih entry.1 entry.2

omit [LawfulBEq κ] in
theorem put_map {γ : Type} (image : β → γ) (entries : List (κ × β)) (key : κ) (value : β) :
    put (entries.map (Prod.map id image)) key (image value) =
      (put entries key value).map (Prod.map id image) := by
  induction entries with
  | nil => rfl
  | cons entry rest ih =>
      simp only [List.map_cons, put, Prod.map_fst, id_eq, ih]
      split <;> rfl

omit [LawfulBEq κ] in
/-- The values that count do not depend on what is made of them. -/
theorem ofList_map {γ : Type} (image : β → γ) (entries : List (κ × β)) :
    ofList (entries.map (Prod.map id image)) = (ofList entries).map (Prod.map id image) := by
  induction entries using List.reverseRecOn with
  | nil => rfl
  | append_singleton entries entry ih =>
      rw [List.map_append, List.map_singleton, ofList_append_singleton, ih,
        ofList_append_singleton]
      exact put_map image _ _ _

/-- The entries are the last ones of their keys. -/
theorem mem_ofList {entries : List (κ × β)} {entry : κ × β} :
    entry ∈ ofList entries ↔ IsLast Prod.fst entries entry := by
  induction entries using List.reverseRecOn with
  | nil => simp [ofList]
  | append_singleton entries next ih =>
      rw [ofList_append_singleton, mem_put (nodup_ofList entries), ih, isLast_append_singleton]

/-- The values under the keys of some items are the last items. -/
theorem mem_values_ofList {key : β → κ} {items : List β} {item : β} :
    item ∈ (ofList (items.map fun item => (key item, item))).map Prod.snd ↔
      IsLast key items item := by
  rw [List.mem_map]
  constructor
  · rintro ⟨entry, member, rfl⟩
    obtain ⟨source, last, rfl⟩ := isLast_map.1 (mem_ofList.1 member)
    exact last
  · intro last
    exact ⟨(key item, item), mem_ofList.2 (isLast_map.2 ⟨item, last, rfl⟩), rfl⟩

/-- The keys of the values are those under which they are kept. -/
theorem map_key_values_ofList (key : β → κ) (items : List β) :
    ((ofList (items.map fun item => (key item, item))).map Prod.snd).map key =
      (ofList (items.map fun item => (key item, item))).map Prod.fst := by
  rw [List.map_map]
  refine List.map_congr_left fun entry member => ?_
  obtain ⟨item, _, rfl⟩ := isLast_map.1 (mem_ofList.1 member)
  rfl

/-! ## Reading a key -/

/-- Setting the value that a key has changes nothing. -/
theorem put_of_lookup {entries : List (κ × β)} {key : κ} {value : β}
    (known : entries.lookup key = some value) : put entries key value = entries := by
  induction entries with
  | nil => cases known
  | cons entry rest ih =>
      rw [List.lookup_cons] at known
      rw [put]
      by_cases same : entry.1 = key
      · rw [if_pos (by simp [same])]
        simp only [same, beq_self_eq_true, Option.some.injEq] at known
        rw [← same, ← known]
      · rw [if_neg (by simp [same]), ih]
        simpa [beq_eq_false_iff_ne.2 (Ne.symm same)] using known

/-- A key that occurs once gives its value. -/
theorem lookup_of_mem {entries : List (κ × β)} (distinct : (entries.map Prod.fst).Nodup)
    {entry : κ × β} (member : entry ∈ entries) : entries.lookup entry.1 = some entry.2 := by
  induction entries with
  | nil => exact absurd member List.not_mem_nil
  | cons head rest ih =>
      obtain ⟨key, value⟩ := head
      obtain ⟨apart, others⟩ := List.nodup_cons.1 distinct
      rcases List.mem_cons.1 member with rfl | later
      · simp
      · have differs : (entry.1 == key) = false := by
          rw [beq_eq_false_iff_ne]
          rintro rfl
          exact apart (List.mem_map.2 ⟨entry, later, rfl⟩)
        rw [List.lookup_cons, differs]
        exact ih others later

theorem lookup_eq_none_of_not_mem {entries : List (κ × β)} {key : κ}
    (absent : key ∉ entries.map Prod.fst) : entries.lookup key = none := by
  induction entries with
  | nil => rfl
  | cons head rest ih =>
      obtain ⟨other, value⟩ := head
      rw [List.map_cons, List.mem_cons, not_or] at absent
      rw [List.lookup_cons, beq_eq_false_iff_ne.2 absent.1]
      exact ih absent.2

/-- Entries under different keys are the values of these keys. -/
theorem eq_map_lookup {entries : List (κ × β)} (distinct : (entries.map Prod.fst).Nodup)
    (default : β) :
    entries = (entries.map Prod.fst).map fun key => (key, (entries.lookup key).getD default) := by
  induction entries with
  | nil => rfl
  | cons entry rest ih =>
      obtain ⟨absent, others⟩ := List.nodup_cons.1 distinct
      have apart {key : κ} (member : key ∈ rest.map Prod.fst) : (key == entry.1) = false :=
        beq_false_of_ne fun same => absent (same ▸ member)
      have tail : rest =
          (rest.map Prod.fst).map fun key => (key, ((entry :: rest).lookup key).getD default) := by
        conv => lhs; rw [ih others]
        refine List.map_congr_left fun key member => ?_
        rw [List.lookup_cons, apart member]
      rw [List.map_cons, List.map_cons, ← tail, List.lookup_cons, beq_self_eq_true]
      rfl

variable {key : α → κ} {value : α → β} {items : List α}

/-- The keys are those of the items. -/
theorem mem_keys_ofList {wanted : κ} :
    wanted ∈ (ofList (items.map fun item => (key item, value item))).map Prod.fst ↔
      ∃ item ∈ items, key item = wanted := by
  rw [List.mem_map]
  constructor
  · rintro ⟨entry, member, rfl⟩
    obtain ⟨item, last, rfl⟩ := isLast_map.1 (mem_ofList.1 member)
    exact ⟨item, last.mem, rfl⟩
  · rintro ⟨item, member, rfl⟩
    obtain ⟨last, latest, same⟩ : ∃ last, IsLast key items last ∧ key last = key item :=
      exists_isLast member
    exact ⟨(key last, value last), mem_ofList.2 (isLast_map.2 ⟨last, latest, rfl⟩), same⟩

theorem lookup_ofList_append_singleton (items : List α) (next : α) (wanted : κ) :
    (ofList ((items ++ [next]).map fun item => (key item, value item))).lookup wanted =
      if wanted == key next then some (value next)
      else (ofList (items.map fun item => (key item, value item))).lookup wanted := by
  rw [List.map_append, List.map_singleton, ofList_append_singleton, lookup_put]

/-- Where items of the same key have the same value, it is the value of the key. -/
theorem lookup_ofList_of_mem
    (agree : ∀ first ∈ items, ∀ second ∈ items, key first = key second →
      value first = value second) {item : α} (member : item ∈ items) :
    (ofList (items.map fun item => (key item, value item))).lookup (key item) =
      some (value item) := by
  induction items using List.reverseRecOn with
  | nil => simp at member
  | append_singleton items next ih =>
      rw [lookup_ofList_append_singleton]
      by_cases same : key item = key next
      · rw [if_pos (by simp [same]), agree item member next (by simp) same]
      · have old : item ∈ items := by
          rcases List.mem_append.1 member with old | new
          · exact old
          · exact absurd (congrArg key (List.mem_singleton.1 new)) same
        rw [if_neg (by simp [same])]
        exact ih (fun first one second two =>
          agree first (by simp [one]) second (by simp [two])) old

theorem lookup_ofList_of_not_mem {wanted : κ} (absent : ∀ item ∈ items, key item ≠ wanted) :
    (ofList (items.map fun item => (key item, value item))).lookup wanted = none := by
  induction items using List.reverseRecOn with
  | nil => rfl
  | append_singleton items next ih =>
      have other := absent next (by simp)
      rw [lookup_ofList_append_singleton, if_neg (by simpa using other.symm)]
      exact ih fun item member => absent item (by simp [member])

end Triage.Keyed
