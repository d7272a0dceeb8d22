import Triage.Proofs.Json.Paths
import Triage.Proofs.Keyed
import Triage.Settings.Merge

/-!
# Settings laid over others

What merged settings have at the end of a path of keys: the value of the upper ones where they
have one, nothing behind such a value, and otherwise what the lower ones have.
-/

namespace Triage

namespace Settings

variable {base added : Json.Fields} {key : String} {path : List String}

/-! ## One level -/

/-- A value that is no object takes the place of what is there. -/
theorem mergeValue_of_leaf {value : Json} (leaf : value.isObject = false) (below : Option Json) :
    mergeValue below value = value := by
  cases value with
  | obj fields => cases leaf
  | _ => rfl

/-- An object takes the place of what is there unless this is an object too. -/
theorem mergeValue_obj (below : Option Json) (fields : Json.Fields) :
    mergeValue below (.obj fields) =
      .obj (match below with
        | some (.obj known) => mergeFields known fields
        | _ => fields) := by
  rcases below with _ | value
  · rfl
  · cases value <;> rfl

@[simp] theorem mergeValue_none (value : Json) : mergeValue none value = value := by
  cases value <;> rfl

/-- A key of the upper fields has its value laid over that of the lower ones, and any other
key has what the lower fields have. -/
theorem lookup_mergeFields (once : (added.map Prod.fst).Nodup) (base : Json.Fields) (key : String) :
    (mergeFields base added).lookup key =
      match added.lookup key with
      | some value => some (mergeValue (base.lookup key) value)
      | none => base.lookup key := by
  induction added generalizing base with
  | nil => rfl
  | cons field rest ih =>
      obtain ⟨name, value⟩ := field
      obtain ⟨apart, others⟩ := List.nodup_cons.1 once
      rw [mergeFields, ih others, Keyed.lookup_put, List.lookup_cons]
      by_cases same : key = name
      · subst same
        simp [Keyed.lookup_eq_none_of_not_mem apart]
      · rw [if_neg (by simpa using same), beq_eq_false_iff_ne.2 same]

/-! ## Along a path -/

/-- The first key of a path leads to the value of this key, laid over what is below it. -/
theorem at?_mergeValue_cons (once : (added.map Prod.fst).Nodup) (below : Option Json)
    (key : String) (path : List String) :
    (mergeValue below (.obj added)).at? (key :: path) =
      match added.lookup key with
      | some value => (mergeValue (below.bind fun value => value.at? [key]) value).at? path
      | none => below.bind fun value => value.at? (key :: path) := by
  -- Below anything but an object there is nothing that the upper fields could be laid over.
  have alone (absent : ∀ path, (below.bind fun value => value.at? (key :: path)) = none) :
      (Json.obj added).at? (key :: path) =
        match added.lookup key with
        | some value => (mergeValue (below.bind fun value => value.at? [key]) value).at? path
        | none => below.bind fun value => value.at? (key :: path) := by
    rw [Json.at?_obj_cons]
    cases added.lookup key <;> simp [absent]
  rw [mergeValue_obj]
  split
  · next known =>
      have here : ((some (Json.obj known)).bind fun value => value.at? [key]) =
          known.lookup key := by simp
      rw [Json.at?_obj_cons, lookup_mergeFields once, here]
      cases added.lookup key <;> rfl
  · next other =>
      apply alone
      intro path
      rcases below with _ | value
      · rfl
      · cases value with
        | obj known => exact absurd rfl (other known)
        | _ => rfl

variable {upper own : Json}

/-- A value of the upper settings is laid over what the lower ones have in its place. -/
theorem at?_mergeValue_of_some (distinct : upper.Distinct) (found : upper.at? path = some own)
    (below : Option Json) :
    (mergeValue below upper).at? path =
      some (mergeValue (below.bind fun value => value.at? path) own) := by
  induction path generalizing upper below with
  | nil =>
      cases Option.some.inj ((Json.at?_nil upper).symm.trans found)
      simp
  | cons key path ih =>
      cases distinct with
      | leaf single => rw [Json.at?_cons_of_leaf single] at found; cases found
      | @object fields once inner =>
          obtain ⟨value, known, found⟩ := Option.bind_eq_some_iff.1 found
          have part := Json.Distinct.of_lookup (.object once inner) known
          rw [at?_mergeValue_cons once, known]
          refine (ih part found _).trans ?_
          cases below with
          | none => rfl
          | some value => rw [Option.bind_some, Option.bind_some, Json.at?_cons value key path]

/-- Where the upper settings have nothing and nothing stands in the way, the lower ones keep
what they have. -/
theorem at?_mergeValue_of_none (distinct : upper.Distinct) (absent : upper.at? path = none)
    (free : ¬ upper.Blocks path) (below : Option Json) :
    (mergeValue below upper).at? path = below.bind fun value => value.at? path := by
  induction path generalizing upper below with
  | nil => cases (Json.at?_nil upper).symm.trans absent
  | cons key path ih =>
      cases distinct with
      | leaf single => exact absurd (Json.blocks_cons_of_leaf single key path) free
      | @object fields once inner =>
          rw [at?_mergeValue_cons once]
          cases known : fields.lookup key with
          | none => rfl
          | some value =>
              have part := Json.Distinct.of_lookup (.object once inner) known
              rw [Json.at?_obj_cons, known] at absent
              refine (ih part absent (fun blocked => free ?_) _).trans ?_
              · exact Json.blocks_obj_cons.2 ⟨value, known, blocked⟩
              · cases below with
                | none => rfl
                | some value =>
                    rw [Option.bind_some, Option.bind_some, Json.at?_cons value key path]

/-- Behind a value of the upper settings that is no object there is nothing. -/
theorem at?_mergeValue_of_blocks (distinct : upper.Distinct) (blocked : upper.Blocks path)
    (below : Option Json) : (mergeValue below upper).at? path = none := by
  obtain ⟨above, rest, leaf, rfl, given, found, single⟩ := blocked
  refine Json.at?_eq_none_of_blocks ⟨above, rest, leaf, rfl, given, ?_, single⟩
  rw [at?_mergeValue_of_some distinct found, mergeValue_of_leaf single]

/-! ## Merging again -/

/-- Fields that have the values of others laid over them already do not change. -/
theorem mergeFields_of_laid
    (laid : ∀ field ∈ added,
      base.lookup field.1 = some (mergeValue (base.lookup field.1) field.2)) :
    mergeFields base added = base := by
  induction added with
  | nil => rfl
  | cons field rest ih =>
      obtain ⟨name, value⟩ := field
      have first := laid (name, value) List.mem_cons_self
      rw [mergeFields, Keyed.put_of_lookup first]
      exact ih fun other member => laid other (List.mem_cons_of_mem _ member)

/-- Laying a value over what is there once more changes nothing. -/
theorem mergeValue_mergeValue (distinct : upper.Distinct) (below : Option Json) :
    mergeValue (some (mergeValue below upper)) upper = mergeValue below upper := by
  induction distinct generalizing below with
  | leaf single => rw [mergeValue_of_leaf single, mergeValue_of_leaf single]
  | @object fields once inner ih =>
      have kept {known : Json.Fields} (laid : ∀ field ∈ fields, ∃ under,
          known.lookup field.1 = some (mergeValue under field.2)) :
          mergeFields known fields = known := by
        refine mergeFields_of_laid fun field member => ?_
        obtain ⟨under, value⟩ := laid field member
        rw [value, ih field member]
      have found {field : String × Json} (member : field ∈ fields) :
          fields.lookup field.1 = some field.2 :=
        Keyed.lookup_of_mem once member
      rw [mergeValue_obj below]
      split
      · next known =>
          refine congrArg Json.obj (kept fun field member => ⟨known.lookup field.1, ?_⟩)
          rw [lookup_mergeFields once, found member]
      · refine congrArg Json.obj (kept fun field member => ⟨none, ?_⟩)
        rw [found member, mergeValue_none]

/-! ## Whole settings -/

theorem obj_merge (base added : Json.Fields) :
    Json.obj (merge base added) = mergeValue (some (.obj base)) (.obj added) :=
  (mergeValue_obj (some (.obj base)) added).symm

/-- Merged settings have at the end of every path the value of the upper settings, if these
have one there that is no object; nothing if such a value stands in the way; and what the
lower settings have, if the upper ones have nothing there and nothing stands in the way.  An
object of the upper settings is laid over what the lower ones have in its place.  Nothing of
the lower settings is lost unless the upper ones have something in its place or a value in the
way.  Merging again changes nothing, and neither does merging with no settings. -/
theorem merge_overrides_leafwise (base : Json.Fields) {override : Json.Fields}
    (distinct : (Json.obj override).Distinct) :
    (∀ path,
      (∀ own, (Json.obj override).at? path = some own → own.isObject = false →
        (Json.obj (merge base override)).at? path = some own) ∧
      ((Json.obj override).Blocks path → (Json.obj (merge base override)).at? path = none) ∧
      ((Json.obj override).at? path = none → ¬ (Json.obj override).Blocks path →
        (Json.obj (merge base override)).at? path = (Json.obj base).at? path) ∧
      (∀ fields, (Json.obj override).at? path = some (.obj fields) →
        (Json.obj (merge base override)).at? path =
          some (.obj (match (Json.obj base).at? path with
            | some (.obj known) => merge known fields
            | _ => fields))) ∧
      (∀ value, (Json.obj base).at? path = some value →
        (Json.obj (merge base override)).at? path = some value ∨
          (∃ own, (Json.obj override).at? path = some own) ∨ (Json.obj override).Blocks path)) ∧
      merge (merge base override) override = merge base override ∧
      merge base [] = base := by
  refine ⟨fun path => ?_, ?_, merge_nil base⟩
  · have kept (absent : (Json.obj override).at? path = none)
        (free : ¬ (Json.obj override).Blocks path) :
        (Json.obj (merge base override)).at? path = (Json.obj base).at? path := by
      rw [obj_merge, at?_mergeValue_of_none distinct absent free, Option.bind_some]
    refine ⟨fun own found leaf => ?_, fun blocked => ?_, kept, fun fields found => ?_,
      fun value given => ?_⟩
    · rw [obj_merge, at?_mergeValue_of_some distinct found, mergeValue_of_leaf leaf]
    · rw [obj_merge, at?_mergeValue_of_blocks distinct blocked]
    · rw [obj_merge, at?_mergeValue_of_some distinct found, mergeValue_obj]
      rfl
    · by_cases blocked : (Json.obj override).Blocks path
      · exact .inr (.inr blocked)
      · cases absent : (Json.obj override).at? path with
        | none => exact .inl ((kept absent blocked).trans given)
        | some own => exact .inr (.inl ⟨own, rfl⟩)
  · have again := mergeValue_mergeValue distinct (some (.obj base))
    rw [← obj_merge, ← obj_merge] at again
    exact Json.obj.inj again

/-- Settings of two sections. -/
def sectioned : Json.Fields :=
  [("remote", .obj [("base_url", .str "https://octobox.io"), ("per_page", .int 100)]),
    ("ui", .obj [("probe_interval_seconds", .int 1)])]

/-- Settings with one value of a section, and a value in the place of the other section. -/
def flattening : Json.Fields :=
  [("remote", .obj [("per_page", .int 7)]), ("ui", .str "plain")]

theorem merge_sectioned_flattening :
    (Json.obj flattening).Distinct ∧
      (Json.obj (merge sectioned flattening)).at? ["remote", "per_page"] = some (.int 7) ∧
      (Json.obj (merge sectioned flattening)).at? ["ui", "probe_interval_seconds"] = none ∧
      (Json.obj (merge sectioned flattening)).at? ["remote", "base_url"] =
        some (.str "https://octobox.io") ∧
      merge (merge sectioned flattening) flattening = merge sectioned flattening := by
  have distinct : (Json.obj flattening).Distinct := by
    refine .object (by decide) fun field member => ?_
    simp only [flattening, List.mem_cons, List.not_mem_nil, or_false] at member
    rcases member with rfl | rfl
    · refine .object (by decide) fun field member => ?_
      cases List.mem_singleton.1 member
      exact .leaf rfl
    · exact .leaf rfl
  obtain ⟨paths, again, _⟩ := merge_overrides_leafwise sectioned distinct
  refine ⟨distinct, (paths _).1 _ rfl rfl, (paths _).2.1 ?_, ?_, again⟩
  · exact ⟨["ui"], ["probe_interval_seconds"], .str "plain", rfl, by simp, rfl, rfl⟩
  · refine ((paths _).2.2.1 rfl ?_).trans rfl
    rw [Json.blocks_obj_cons]
    rintro ⟨inner, found, blocked⟩
    cases Option.some.inj (found.symm.trans rfl)
    obtain ⟨_, absent, _⟩ := Json.blocks_obj_cons.1 blocked
    cases absent

end Settings

end Triage
