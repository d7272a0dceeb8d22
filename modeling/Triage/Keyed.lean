/-!
# Entries under keys

Lists of entries in which each key has one value.  A new key goes to the end and
a known key keeps its place, so that the order is that of first appearance.
-/

namespace Triage.Keyed

variable {κ β : Type} [BEq κ]

/-- Set the value of a key. -/
def put (entries : List (κ × β)) (key : κ) (value : β) : List (κ × β) :=
  match entries with
  | [] => [(key, value)]
  | entry :: rest =>
      if entry.1 == key then (key, value) :: rest else entry :: put rest key value

/-- The entries of a list, where the last value of a key counts. -/
def ofList (entries : List (κ × β)) : List (κ × β) :=
  entries.foldl (fun known entry => put known entry.1 entry.2) []

/-- Reading a key after setting one. -/
theorem lookup_put [LawfulBEq κ] (entries : List (κ × β)) (key other : κ) (value : β) :
    (put entries key value).lookup other =
      if other == key then some value else entries.lookup other := by
  induction entries with
  | nil => by_cases same : other == key <;> simp [put, List.lookup_cons, same]
  | cons entry rest ih =>
      obtain ⟨entryKey, entryValue⟩ := entry
      by_cases known : entryKey == key
      · have equal : entryKey = key := by simpa using known
        subst equal
        by_cases same : other == entryKey <;> simp [put, List.lookup_cons, same]
      · by_cases same : other == entryKey
        · have equal : other = entryKey := by simpa using same
          subst equal
          simp [put, known]
        · simp [put, List.lookup_cons, known, same, ih]

/-- The keys after setting one: a new key is the last. -/
theorem map_fst_put [LawfulBEq κ] (entries : List (κ × β)) (key : κ) (value : β) :
    (put entries key value).map Prod.fst =
      if (entries.map Prod.fst).contains key then entries.map Prod.fst
      else entries.map Prod.fst ++ [key] := by
  induction entries with
  | nil => simp [put]
  | cons entry rest ih =>
      obtain ⟨entryKey, entryValue⟩ := entry
      by_cases known : entryKey == key
      · have equal : entryKey = key := by simpa using known
        subst equal
        simp [put]
      · have differs : (key == entryKey) = false := by
          simpa using fun equal : key = entryKey => known (by simp [equal])
        simp only [put, known, Bool.false_eq_true, if_false, List.map_cons, ih,
          List.contains_cons, differs, Bool.false_or]
        split <;> simp

end Triage.Keyed
