import Mathlib.Data.List.AList

namespace Foundation

abbrev Marks (κ ν : Type) := AList (fun _ : κ => Option ν)

/-- The last of the values that the sources have. -/
def lastOf (valueOf : α → Option ν) (sources : List α) : Option ν :=
  (sources.filterMap valueOf).getLast?

namespace Marks

variable {κ ν α : Type} [DecidableEq κ]
variable {key other : κ} {value : Option ν} {marks : Marks κ ν}

/-- A key is opened without a mark, and a mark that comes later overwrites. -/
def mark (key : κ) (value : Option ν) (marks : Marks κ ν) : Marks κ ν :=
  match value with
  | some value => marks.insert key (some value)
  | none => if key ∈ marks then marks else marks.insert key none

def markAll (keyOf : α → κ) (valueOf : α → Option ν) (sources : List α) (marks : Marks κ ν) :
    Marks κ ν :=
  sources.foldl (fun marked source => marked.mark (keyOf source) (valueOf source)) marks

def held (marks : Marks κ ν) (key : κ) : Option ν := (marks.lookup key).join

theorem lookup_eq_held (member : key ∈ marks) : marks.lookup key = some (marks.held key) := by
  obtain ⟨value, found⟩ := Option.isSome_iff_exists.mp (AList.lookup_isSome.mpr member)
  simp [held, found]

@[simp] theorem held_empty (key : κ) : (∅ : Marks κ ν).held key = none := rfl

theorem mem_mark : other ∈ marks.mark key value ↔ other = key ∨ other ∈ marks := by
  cases value with
  | some value => exact AList.mem_insert marks
  | none =>
      rw [mark]
      split
      · rename_i present
        exact ⟨Or.inr, fun found => found.elim (fun same => same ▸ present) id⟩
      · exact AList.mem_insert marks

theorem held_mark_same : (marks.mark key value).held key = value.or (marks.held key) := by
  cases value with
  | some value => simp [mark, held]
  | none =>
      rw [mark, Option.none_or]
      split
      · rfl
      · rename_i absent
        simp [held, AList.lookup_eq_none.mpr absent]

theorem held_mark_other (different : other ≠ key) :
    (marks.mark key value).held other = marks.held other := by
  cases value with
  | some value => simp [mark, held, AList.lookup_insert_ne different]
  | none =>
      rw [mark]
      split
      · rfl
      · simp [held, AList.lookup_insert_ne different]

section MarkAll

variable {keyOf : α → κ} {valueOf : α → Option ν} {source : α} {sources : List α}

@[simp] theorem markAll_nil : marks.markAll keyOf valueOf [] = marks := rfl

@[simp] theorem markAll_cons :
    marks.markAll keyOf valueOf (source :: sources) =
      (marks.mark (keyOf source) (valueOf source)).markAll keyOf valueOf sources := rfl

theorem mem_markAll :
    other ∈ marks.markAll keyOf valueOf sources ↔
      other ∈ marks ∨ ∃ source ∈ sources, keyOf source = other := by
  induction sources generalizing marks with
  | nil => simp
  | cons source sources ih =>
      rw [markAll_cons, ih, mem_mark]
      simp only [List.mem_cons, exists_eq_or_imp, eq_comm (a := other)]
      tauto

/-- The invariant of the loop: the last mark of the sources so far, else the one that
was there before. -/
theorem held_markAll :
    (marks.markAll keyOf valueOf sources).held other =
      (lastOf valueOf (sources.filter (keyOf · = other))).or (marks.held other) := by
  induction sources generalizing marks with
  | nil => rfl
  | cons source sources ih =>
      rw [markAll_cons, ih]
      by_cases same : keyOf source = other
      · subst same
        rw [held_mark_same, ← Option.or_assoc, List.filter_cons_of_pos (by simp)]
        congr 1
        cases marked : valueOf source with
        | none => simp [lastOf, marked]
        | some value =>
            rw [lastOf, lastOf, List.filterMap_cons_some marked, List.getLast?_cons]
            cases (List.filterMap valueOf _).getLast? <;> rfl
      · rw [held_mark_other (Ne.symm same), List.filter_cons_of_neg (by simpa using same)]

end MarkAll

end Marks

end Foundation
