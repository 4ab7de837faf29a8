import Mathlib.Data.List.Sort

namespace Foundation

variable {α κ : Type} [LinearOrder κ] {key : α → κ} {values other : List α}

/-- `sorted(values, key=...)`.  Insertion before the first element with no smaller key is
stable, and any stable sort computes the same list. -/
def sortedBy (key : α → κ) (values : List α) : List α :=
  values.insertionSort fun left right => key left ≤ key right

/-- `sorted(values, key=..., reverse=True)`: equal keys still keep their order. -/
def sortedByDescending (key : α → κ) (values : List α) : List α :=
  values.insertionSort fun left right => key right ≤ key left

instance keyTotal : Std.Total fun left right : α => key left ≤ key right :=
  ⟨fun left right => le_total (key left) (key right)⟩

instance keyTrans : IsTrans α fun left right => key left ≤ key right :=
  ⟨fun _ _ _ => le_trans⟩

theorem sortedBy_perm : (sortedBy key values).Perm values :=
  List.perm_insertionSort _ values

theorem sortedByDescending_perm : (sortedByDescending key values).Perm values :=
  List.perm_insertionSort _ values

theorem sortedBy_pairwise :
    (sortedBy key values).Pairwise fun left right => key left ≤ key right :=
  List.pairwise_insertionSort _ values

theorem sortedBy_map {β : Type} {image : β → α} {sources : List β} :
    sortedBy key (sources.map image) = (sortedBy (key ∘ image) sources).map image :=
  (List.map_insertionSort _ _ image sources fun _ _ _ _ => Iff.rfl).symm

theorem sortedBy_eq_self (sorted : values.Pairwise fun left right => key left ≤ key right) :
    sortedBy key values = values :=
  sorted.insertionSort_eq

end Foundation
