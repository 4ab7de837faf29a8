import Mathlib.Data.List.AList

namespace Foundation

abbrev Dictionary (κ α : Type) := AList (fun _ : κ => α)

namespace Dictionary

variable {κ α : Type} [DecidableEq κ] {key other : κ} {value : α}

/-- `dictionary.update(changes)`. -/
def update (dictionary changes : Dictionary κ α) : Dictionary κ α := changes ∪ dictionary

/-- `dictionary.setdefault(key, value)`. -/
def setDefault (dictionary : Dictionary κ α) (key : κ) (value : α) : Dictionary κ α :=
  if key ∈ dictionary then dictionary else dictionary.insert key value

def setDefaults (defaults : List (κ × α)) (dictionary : Dictionary κ α) : Dictionary κ α :=
  defaults.foldl (fun filled entry => setDefault filled entry.1 entry.2) dictionary

def insertAll (entries : List (κ × α)) (dictionary : Dictionary κ α) : Dictionary κ α :=
  entries.foldl (fun filled entry => filled.insert entry.1 entry.2) dictionary

/-- `del dictionary[key]` for every one of `keys` that is there. -/
def without (keys : List κ) (dictionary : Dictionary κ α) : Dictionary κ α :=
  keys.foldl (fun left key => left.erase key) dictionary

theorem lookup_update (dictionary changes : Dictionary κ α) (key : κ) :
    (update dictionary changes).lookup key = (changes.lookup key).or (dictionary.lookup key) := by
  by_cases changed : key ∈ changes
  · obtain ⟨value, found⟩ := Option.isSome_iff_exists.mp (AList.lookup_isSome.mpr changed)
    rw [update, AList.lookup_union_left changed, found]
    rfl
  · rw [update, AList.lookup_union_right changed, AList.lookup_eq_none.mpr changed]
    rfl

/-- The last one of the entries of a key counts. -/
theorem lookup_insertAll [BEq κ] [LawfulBEq κ] (entries : List (κ × α))
    (dictionary : Dictionary κ α) (key : κ) :
    (insertAll entries dictionary).lookup key =
      (entries.reverse.lookup key).or (dictionary.lookup key) := by
  induction entries generalizing dictionary with
  | nil => rfl
  | cons entry entries ih =>
      obtain ⟨other, value⟩ := entry
      change (insertAll entries (dictionary.insert other value)).lookup key = _
      rw [ih, List.reverse_cons, List.lookup_append, Option.or_assoc, List.lookup_cons]
      by_cases same : key = other
      · subst same
        simp
      · have differs : (key == other) = false := by simpa using same
        rw [AList.lookup_insert_ne same, differs]
        rfl

end Dictionary

end Foundation
