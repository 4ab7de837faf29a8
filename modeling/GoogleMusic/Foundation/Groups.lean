import Mathlib.Data.List.AList

/-! # Dictionaries of lists

An index built by an imperative loop is a dictionary from a key to the list of
the items filed under it.  A loop step makes sure that the key has a list and
appends to it; `file` is that step as one update, and `fileAll` the whole loop.
The lemmas describe an index by what a lookup finds (`group`), by its keys, and by
the items over all keys (`items`).
-/

namespace Foundation

abbrev Groups (κ β : Type) := AList (fun _ : κ => List β)

namespace Groups

variable {κ α β : Type} [DecidableEq κ]
variable {key other : κ} {item : β} {groups : Groups κ β}

/-- The items filed under a key; a key without a list has none. -/
def group (groups : Groups κ β) (key : κ) : List β := (groups.lookup key).getD []

def items (groups : Groups κ β) : List β := groups.entries.flatMap Sigma.snd

def ensure (key : κ) (groups : Groups κ β) : Groups κ β :=
  if key ∈ groups then groups else groups.insert key []

def appendAt (key : κ) (item : β) (groups : Groups κ β) : Option (Groups κ β) :=
  (groups.lookup key).map fun filed => groups.insert key (filed ++ [item])

def file (key : κ) (item : β) (groups : Groups κ β) : Groups κ β :=
  groups.insert key (groups.group key ++ [item])

def fileAll (keyOf : α → κ) (itemOf : α → β) (sources : List α) (groups : Groups κ β) : Groups κ β :=
  sources.foldl (fun filed source => filed.file (keyOf source) (itemOf source)) groups

@[simp] theorem group_empty (key : κ) : (∅ : Groups κ β).group key = [] := rfl

omit [DecidableEq κ] in
@[simp] theorem items_empty : (∅ : Groups κ β).items = [] := rfl

theorem lookup_eq_group (member : key ∈ groups) : groups.lookup key = some (groups.group key) := by
  obtain ⟨filed, found⟩ := Option.isSome_iff_exists.mp (AList.lookup_isSome.mpr member)
  simp [group, found]

theorem group_eq_nil_of_notMem (absent : key ∉ groups) : groups.group key = [] := by
  simp [group, AList.lookup_eq_none.mpr absent]

theorem mem_items_of_mem_group (member : item ∈ groups.group key) : item ∈ groups.items := by
  by_cases present : key ∈ groups
  · have inside := AList.mem_lookup_iff.mp (lookup_eq_group present)
    exact List.mem_flatMap.mpr ⟨_, inside, member⟩
  · simp [group_eq_nil_of_notMem present] at member

theorem mem_ensure : other ∈ groups.ensure key ↔ other = key ∨ other ∈ groups := by
  unfold ensure
  split
  · rename_i present
    constructor
    · exact Or.inr
    · rintro (rfl | member)
      · exact present
      · exact member
  · exact AList.mem_insert groups

theorem items_ensure : (groups.ensure key).items = groups.items := by
  unfold ensure
  split
  · rfl
  · rename_i absent
    rw [items, AList.entries_insert_of_notMem absent]
    rfl

theorem group_ensure : (groups.ensure key).group other = groups.group other := by
  unfold ensure
  split
  · rfl
  · rename_i absent
    by_cases same : other = key
    · subst same
      simp [group, AList.lookup_eq_none.mpr absent]
    · simp [group, AList.lookup_insert_ne same]

theorem appendAt_of_mem (member : key ∈ groups) :
    groups.appendAt key item = some (groups.file key item) := by
  rw [appendAt, lookup_eq_group member, Option.map_some, file]

theorem file_ensure : (groups.ensure key).file key item = groups.file key item := by
  rw [file, group_ensure, file]
  unfold ensure
  split
  · rfl
  · rw [AList.insert_insert]

theorem mem_file : other ∈ groups.file key item ↔ other = key ∨ other ∈ groups :=
  AList.mem_insert groups

theorem group_file_same : (groups.file key item).group key = groups.group key ++ [item] := by
  simp [group, file]

theorem group_file_other (different : other ≠ key) :
    (groups.file key item).group other = groups.group other := by
  simp [group, file, AList.lookup_insert_ne different]

theorem items_file : (groups.file key item).items.Perm (item :: groups.items) := by
  by_cases member : key ∈ groups
  · obtain ⟨filed, front, back, _, split, rest⟩ := List.exists_of_kerase member
    have inside : (⟨key, filed⟩ : Sigma fun _ => List β) ∈ groups.entries := by simp [split]
    have found : groups.group key = filed := by
      rw [group, AList.mem_lookup_iff.mpr inside, Option.getD_some]
    have entries : (groups.file key item).entries = ⟨key, filed ++ [item]⟩ :: (front ++ back) := by
      rw [file, found, AList.entries_insert, rest]
    simp only [items, entries, split, List.flatMap_cons, List.flatMap_append, List.append_assoc,
      List.cons_append, List.nil_append]
    exact List.perm_middle.trans (.cons item (List.perm_append_comm_assoc _ _ _))
  · have entries : (groups.file key item).entries = ⟨key, [item]⟩ :: groups.entries := by
      rw [file, group_eq_nil_of_notMem member, AList.entries_insert_of_notMem member]
      rfl
    simp [items, entries]

section FileAll

variable {keyOf : α → κ} {itemOf : α → β} {source : α} {sources : List α}

@[simp] theorem fileAll_nil : groups.fileAll keyOf itemOf [] = groups := rfl

@[simp] theorem fileAll_cons :
    groups.fileAll keyOf itemOf (source :: sources) =
      (groups.file (keyOf source) (itemOf source)).fileAll keyOf itemOf sources := rfl

theorem mem_fileAll :
    other ∈ groups.fileAll keyOf itemOf sources ↔
      other ∈ groups ∨ ∃ source ∈ sources, keyOf source = other := by
  induction sources generalizing groups with
  | nil => simp
  | cons source sources ih =>
      rw [fileAll_cons, ih, mem_file]
      simp only [List.mem_cons, exists_eq_or_imp, eq_comm (a := other)]
      tauto

theorem group_fileAll :
    (groups.fileAll keyOf itemOf sources).group other =
      groups.group other ++ (sources.filter (keyOf · = other)).map itemOf := by
  induction sources generalizing groups with
  | nil => simp
  | cons source sources ih =>
      rw [fileAll_cons, ih]
      by_cases same : keyOf source = other
      · subst same
        simp [group_file_same]
      · simp [group_file_other (Ne.symm same), same]

theorem items_fileAll (keyOf : α → κ) (itemOf : α → β) (sources : List α) (groups : Groups κ β) :
    (groups.fileAll keyOf itemOf sources).items.Perm (groups.items ++ sources.map itemOf) := by
  induction sources generalizing groups with
  | nil => simp
  | cons source sources ih =>
      rw [fileAll_cons]
      refine (ih _).trans ((items_file.append_right _).trans ?_)
      simpa using List.perm_middle.symm

/-- Every key of an index that the loop built from nothing has an item. -/
theorem group_fileAll_ne_nil (member : other ∈ fileAll keyOf itemOf sources (∅ : Groups κ β)) :
    (fileAll keyOf itemOf sources (∅ : Groups κ β)).group other ≠ [] := by
  obtain impossible | ⟨source, inside, same⟩ := mem_fileAll.mp member
  · exact absurd impossible (AList.notMem_empty other)
  · rw [group_fileAll]
    intro empty
    have filed : source ∈ sources.filter (keyOf · = other) := by simp [inside, same]
    simp only [group_empty, List.nil_append, List.map_eq_nil_iff] at empty
    simp [empty] at filed

end FileAll

end Groups

section Classes

variable {α κ : Type} [DecidableEq κ] {classOf : α → Option κ} {classes : List κ} {values : List α}

end Classes

end Foundation
