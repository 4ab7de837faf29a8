import GoogleMusic.Foundation.Sorting
import Mathlib.Data.List.Count
import Mathlib.Data.List.Forall2

namespace Foundation

variable {α κ : Type}

def page (size index : Nat) (values : List α) : List α := (values.drop (index * size)).take size

def pageCount (size length : Nat) : Nat := max 1 ((length + size - 1) / size)

/-- `count` pages from `index` on; `lists i` is the list at the `i`-th of them. -/
def shown (size : Nat) : Nat → Nat → (Nat → List α) → List α
  | 0, _, _ => []
  | count + 1, index, lists =>
      page size index (lists 0) ++ shown size count (index + 1) fun i => lists (i + 1)

section Pages

variable {size count index more : Nat} {values : List α} {lists other : Nat → List α}

theorem pageCount_pos : 0 < pageCount size values.length := by
  unfold pageCount
  omega

theorem length_le_pageCount (positive : 0 < size) (length : Nat) :
    length ≤ pageCount size length * size := by
  have split := Nat.div_add_mod (length + size - 1) size
  have small := Nat.mod_lt (length + size - 1) positive
  have enough : (length + size - 1) / size * size ≤ pageCount size length * size :=
    Nat.mul_le_mul_right size (Nat.le_max_right _ _)
  rw [Nat.mul_comm] at split
  omega

theorem page_continues_iff (positive : 0 < size) {length : Nat} :
    (index + 1) * size < length ↔ index + 1 < pageCount size length := by
  have behind : index + 1 < pageCount size length ↔ index + 1 < (length + size - 1) / size := by
    rw [pageCount]
    omega
  have expand : (index + 1 + 1) * size = (index + 1) * size + size := Nat.succ_mul (index + 1) size
  rw [behind, Nat.lt_iff_add_one_le, Nat.lt_iff_add_one_le, Nat.le_div_iff_mul_le positive, expand]
  omega

theorem page_append_drop (values : List α) :
    page size index values ++ values.drop ((index + 1) * size) = values.drop (index * size) := by
  rw [page, Nat.succ_mul, ← List.drop_drop, List.take_append_drop]

theorem page_length (size index : Nat) (values : List α) :
    (page size index values).length = min size (values.length - index * size) := by
  rw [page, List.length_take, List.length_drop]

theorem page_full (continues : (index + 1) * size < values.length) :
    (page size index values).length = size := by
  rw [page_length]
  rw [Nat.succ_mul] at continues
  omega

theorem page_ne_nil (positive : 0 < size) (inside : index * size < values.length) :
    page size index values ≠ [] := by
  have length := page_length size index values
  intro empty
  rw [empty, List.length_nil] at length
  omega

theorem exists_page_of_mem {value : α} (positive : 0 < size) (member : value ∈ values) :
    ∃ index, value ∈ page size index values := by
  obtain ⟨position, below, rfl⟩ := List.mem_iff_getElem.mp member
  have split := Nat.div_add_mod position size
  have small := Nat.mod_lt position positive
  rw [Nat.mul_comm] at split
  refine ⟨position / size, List.mem_iff_getElem.mpr ⟨position % size, ?_, ?_⟩⟩
  · rw [page_length]
    omega
  · simp only [page, List.getElem_take, List.getElem_drop, split]

theorem flatMap_page : ((List.range' index count).flatMap fun i => page size i values) =
    (values.drop (index * size)).take (count * size) := by
  induction count generalizing index with
  | zero => simp
  | succ count ih =>
      rw [List.range'_succ, List.flatMap_cons, ih, page, Nat.succ_mul, Nat.succ_mul,
        Nat.add_comm (count * size), List.take_add, List.drop_drop]

/-- The invariant of reading on: what is still to come is what lies behind the cut. -/
theorem shown_perm (index : Nat) (lists : Nat → List α)
    (keeps : ∀ i, ((lists i).drop ((index + i + 1) * size)).Perm
      ((lists (i + 1)).drop ((index + i + 1) * size)))
    (enough : ∀ i, (lists i).length ≤ (index + count) * size) :
    (shown size count index lists).Perm ((lists 0).drop (index * size)) := by
  induction count generalizing index lists with
  | zero =>
      have past : (lists 0).length ≤ index * size := enough 0
      rw [shown, List.drop_eq_nil_of_le past]
  | succ count ih =>
      have later := ih (index + 1) (fun i => lists (i + 1))
        (fun i => by simpa only [Nat.add_assoc, Nat.add_comm 1] using keeps (i + 1))
        (fun i => by simpa only [Nat.add_assoc, Nat.add_comm 1] using enough (i + 1))
      rw [shown, ← page_append_drop (lists 0)]
      exact (later.trans (keeps 0).symm).append_left _

theorem shown_map {key : α → κ} {keys : List κ} (index : Nat) (lists : Nat → List α)
    (same : ∀ i, (lists i).map key = keys)
    (enough : keys.length ≤ (index + count) * size) :
    (shown size count index lists).map key = keys.drop (index * size) := by
  induction count generalizing index lists with
  | zero =>
      have past : keys.length ≤ index * size := enough
      rw [shown, List.drop_eq_nil_of_le past, List.map_nil]
  | succ count ih =>
      have later := ih (index + 1) (fun i => lists (i + 1)) (fun i => same (i + 1))
        (by simpa only [Nat.add_assoc, Nat.add_comm 1] using enough)
      rw [shown, List.map_append, later, page, List.map_take, List.map_drop, same 0]
      exact page_append_drop keys

theorem exists_of_mem_shown {value : α} (member : value ∈ shown size count index lists) :
    ∃ i, value ∈ lists i := by
  induction count generalizing index lists with
  | zero => simp [shown] at member
  | succ count ih =>
      rcases List.mem_append.mp member with here | later
      · exact ⟨0, List.mem_of_mem_drop (List.mem_of_mem_take here)⟩
      · obtain ⟨i, inside⟩ := ih later
        exact ⟨i + 1, inside⟩

theorem shown_congr (other : Nat → List α) (same : ∀ i < count, lists i = other i) :
    shown size count index lists = shown size count index other := by
  induction count generalizing index lists other with
  | zero => rfl
  | succ count ih =>
      rw [shown, shown, same 0 (Nat.succ_pos count),
        ih (fun i => other (i + 1)) fun i below => same (i + 1) (Nat.succ_lt_succ below)]

theorem shown_append :
    shown size (count + more) index lists =
      shown size count index lists ++
        shown size more (index + count) fun i => lists (i + count) := by
  induction count generalizing index lists with
  | zero => simp [shown]
  | succ count ih =>
      rw [Nat.succ_add, shown, shown, ih, List.append_assoc]
      simp only [Nat.add_assoc, Nat.add_comm 1]

theorem shown_const :
    shown size count index (fun _ => values) = (values.drop (index * size)).take (count * size) := by
  induction count generalizing index with
  | zero => simp [shown]
  | succ count ih =>
      rw [shown, ih, page, Nat.succ_mul, Nat.succ_mul, Nat.add_comm (count * size),
        List.take_add, List.drop_drop]

theorem shown_switch (front back : List α) (before : ∀ i < index, lists i = front)
    (after : ∀ i, index ≤ i → lists i = back) (enough : back.length ≤ (index + more) * size) :
    shown size (index + more) 0 lists =
      front.take (index * size) ++ back.drop (index * size) := by
  have tail : (fun i => lists (i + index)) = fun _ => back :=
    funext fun i => after _ (Nat.le_add_left index i)
  have rest : back.length - index * size ≤ more * size := by
    rw [Nat.add_mul] at enough
    omega
  rw [shown_append, shown_congr (fun _ => front) before, shown_const, tail, shown_const,
    Nat.zero_mul, List.drop_zero, Nat.zero_add,
    List.take_of_length_le (l := back.drop (index * size)) (by rw [List.length_drop]; exact rest)]

end Pages

section Cut

variable [LinearOrder κ] {key : α → κ} {values other : List α} {position : Nat} {first second : α}

/-- Two different values have a key whose values lie on both sides of the position in
every list sorted by the key. -/
def Straddled (key : α → κ) (values : List α) (position : Nat) : Prop :=
  ∃ first ∈ values, ∃ second ∈ values, first ≠ second ∧ key first = key second ∧
    (values.countP fun value => key value < key first) < position ∧
    position < values.countP fun value => key value ≤ key first

theorem Straddled.perm (straddled : Straddled key values position) (same : values.Perm other) :
    Straddled key other position := by
  obtain ⟨first, inside, second, inside', different, tie, below, above⟩ := straddled
  exact ⟨first, same.mem_iff.mp inside, second, same.mem_iff.mp inside', different, tie,
    (same.countP_eq _) ▸ below, (same.countP_eq _) ▸ above⟩

theorem cut_le (sorted : values.Pairwise fun left right => key left ≤ key right)
    (before : first ∈ values.take position) (after : second ∈ values.drop position) :
    key first ≤ key second := by
  rw [← List.take_append_drop position values] at sorted
  exact (List.pairwise_append.mp sorted).2.2 first before second after

theorem Straddled.exists_cut (sorted : values.Pairwise fun left right => key left ≤ key right)
    (straddled : Straddled key values position) :
    ∃ first ∈ values.take position, ∃ second ∈ values.drop position,
      first ≠ second ∧ key first = key second := by
  obtain ⟨one, inside, two, inside', different, tie, below, above⟩ := straddled
  rw [← List.take_append_drop position values, List.countP_append] at below above
  have short := List.length_take_le position values
  -- A value behind the cut is at most the shared key, since those before it cannot make up the count.
  have behind : ∃ value ∈ values.drop position, key value ≤ key one := by
    have front := List.countP_le_length (p := fun value => decide (key value ≤ key one))
      (l := values.take position)
    have positive : 0 < (values.drop position).countP fun value => key value ≤ key one := by omega
    simpa using List.countP_pos_iff.mp positive
  obtain ⟨second, after, small⟩ := behind
  have full : (values.take position).length = position := by
    have room := List.length_pos_of_mem after
    rw [List.length_drop] at room
    rw [List.length_take]
    omega
  have ahead : ∃ value ∈ values.take position, ¬ key value < key one := by
    by_contra none
    simp only [not_exists, not_and, not_not] at none
    have all := List.countP_eq_length.mpr fun value member =>
      decide_eq_true (none value member)
    omega
  obtain ⟨first, before, large⟩ := ahead
  have between := cut_le sorted before after
  have firstTie : key first = key one := le_antisymm (between.trans small) (not_lt.mp large)
  have secondTie : key second = key one := le_antisymm small ((not_lt.mp large).trans between)
  -- One of the two given values differs from `first`; it lies on one of the two sides.
  have choose : ∃ value ∈ values, value ≠ first ∧ key value = key one := by
    by_cases same : one = first
    · exact ⟨two, inside', fun equal => different (same.trans equal.symm), tie.symm⟩
    · exact ⟨one, inside, same, rfl⟩
  obtain ⟨value, member, unequal, valueTie⟩ := choose
  by_cases same : first = second
  · rw [← List.take_append_drop position values, List.mem_append] at member
    rcases member with member | member
    · exact ⟨value, member, second, after, same ▸ unequal, valueTie.trans secondTie.symm⟩
    · exact ⟨first, before, value, member, unequal.symm, firstTie.trans valueTie.symm⟩
  · exact ⟨first, before, second, after, same, firstTie.trans secondTie.symm⟩

theorem straddled_of_cut (sorted : values.Pairwise fun left right => key left ≤ key right)
    (before : first ∈ values.take position) (after : second ∈ values.drop position)
    (different : first ≠ second) (tie : key first = key second) :
    Straddled key values position := by
  have full : (values.take position).length = position := by
    have room := List.length_pos_of_mem after
    rw [List.length_drop] at room
    rw [List.length_take]
    omega
  refine ⟨first, List.mem_of_mem_take before, second, List.mem_of_mem_drop after, different, tie,
    ?_, ?_⟩
  · have none : (values.drop position).countP (fun value => decide (key value < key first)) = 0 := by
      rw [List.countP_eq_zero]
      intro value member
      simpa using cut_le sorted before member
    have fewer : (values.take position).countP (fun value => decide (key value < key first)) <
        (values.take position).length := by
      apply lt_of_le_of_ne List.countP_le_length
      intro all
      simpa using List.countP_eq_length.mp all first before
    rw [← List.take_append_drop position values, List.countP_append]
    omega
  · have all : (values.take position).countP (fun value => decide (key value ≤ key first)) =
        (values.take position).length := by
      rw [List.countP_eq_length]
      intro value member
      simpa [tie] using cut_le sorted member after
    have one : 0 < (values.drop position).countP fun value => decide (key value ≤ key first) :=
      List.countP_pos_iff.mpr ⟨second, after, by simp [tie]⟩
    rw [← List.take_append_drop position values, List.countP_append]
    omega

theorem sorted_of_map_eq (same : other.map key = values.map key)
    (sorted : values.Pairwise fun left right => key left ≤ key right) :
    other.Pairwise fun left right => key left ≤ key right :=
  List.pairwise_map.mp (same ▸ List.pairwise_map.mpr sorted)

theorem map_eq_of_sorted (sorted : values.Pairwise fun left right => key left ≤ key right)
    (sorted' : other.Pairwise fun left right => key left ≤ key right) (same : values.Perm other) :
    values.map key = other.map key :=
  (same.map key).eq_of_pairwise (fun _ _ _ _ => le_antisymm) (List.pairwise_map.mpr sorted)
    (List.pairwise_map.mpr sorted')

theorem count_of_alone [DecidableEq α] {value : α} (alone : α)
    (only : ∀ other ∈ values, key other = key value → other = alone) :
    values.count value = if value = alone then (values.map key).count (key value) else 0 := by
  split
  · rename_i same
    rw [List.count, List.count, List.countP_map]
    apply List.countP_congr
    intro other member
    simp only [beq_iff_eq, Function.comp_apply]
    exact ⟨congrArg key, fun tie => (only other member tie).trans same.symm⟩
  · rename_i different
    exact List.count_eq_zero_of_not_mem fun member => different (only value member rfl)

/-- A cut that is not straddled has the same values behind it in every sorted
arrangement. -/
theorem drop_perm_of_not_straddled
    (sorted : values.Pairwise fun left right => key left ≤ key right)
    (sorted' : other.Pairwise fun left right => key left ≤ key right) (same : values.Perm other)
    (apart : ¬ Straddled key values position) :
    (values.drop position).Perm (other.drop position) := by
  classical
  have keys := map_eq_of_sorted sorted sorted' same
  have keysBefore : (values.take position).map key = (other.take position).map key := by
    rw [List.map_take, List.map_take, keys]
  have keysAfter : (values.drop position).map key = (other.drop position).map key := by
    rw [List.map_drop, List.map_drop, keys]
  apply List.perm_iff_count.mpr
  intro value
  by_cases after : key value ∈ (values.drop position).map key
  · by_cases before : key value ∈ (values.take position).map key
    · obtain ⟨second, behind, secondTie⟩ := List.mem_map.mp after
      obtain ⟨first, ahead, firstTie⟩ := List.mem_map.mp before
      have equal : ∀ {left right}, left ∈ values.take position → right ∈ values.drop position →
          key left = key value → key right = key value → left = right := by
        intro left right inside inside' tie tie'
        by_contra different
        exact apart (straddled_of_cut sorted inside inside' different (tie.trans tie'.symm))
      have only : ∀ member ∈ values, key member = key value → member = second := by
        intro member inside tie
        rw [← List.take_append_drop position values, List.mem_append] at inside
        rcases inside with inside | inside
        · exact equal inside behind tie secondTie
        · exact (equal ahead inside firstTie tie).symm.trans (equal ahead behind firstTie secondTie)
      rw [count_of_alone second fun member inside =>
          only member (List.mem_of_mem_drop inside),
        count_of_alone second fun member inside =>
          only member (same.mem_iff.mpr (List.mem_of_mem_drop inside)), keysAfter]
    · have none : (values.take position).count value = 0 :=
        List.count_eq_zero_of_not_mem fun member => before (List.mem_map_of_mem member)
      have none' : (other.take position).count value = 0 :=
        List.count_eq_zero_of_not_mem fun member =>
          before (keysBefore ▸ List.mem_map_of_mem member)
      have total := List.perm_iff_count.mp same value
      rw [← List.take_append_drop position values, List.count_append, none] at total
      rw [← List.take_append_drop position other, List.count_append, none'] at total
      simpa using total
  · rw [List.count_eq_zero_of_not_mem fun member => after (List.mem_map_of_mem member),
      List.count_eq_zero_of_not_mem fun member => after (keysAfter ▸ List.mem_map_of_mem member)]

end Cut

/-- Two different values on the two sides of a cut can change places, and whoever read
the front before and the back afterwards has missed one of them. -/
theorem exists_exchange {values : List α} {position : Nat} {first second : α}
    (before : first ∈ values.take position) (after : second ∈ values.drop position)
    (different : first ≠ second) :
    ∃ other : List α, other.Perm values ∧
      (∀ {κ : Type} (key : α → κ), key first = key second → other.map key = values.map key) ∧
      ¬ (values.take position ++ other.drop position).Perm values := by
  obtain ⟨front, middle, ahead⟩ := List.append_of_mem before
  obtain ⟨gap, back, behind⟩ := List.append_of_mem after
  have full : (front ++ first :: middle).length = position := by
    have room := List.length_pos_of_mem after
    rw [List.length_drop] at room
    rw [← ahead, List.length_take]
    omega
  have whole : values = front ++ first :: middle ++ (gap ++ second :: back) := by
    rw [← ahead, ← behind, List.take_append_drop]
  have cut : (front ++ second :: middle ++ (gap ++ first :: back)).drop position =
      gap ++ first :: back :=
    List.drop_left' (by simpa using full)
  refine ⟨front ++ second :: middle ++ (gap ++ first :: back), ?_, ?_, ?_⟩
  · rw [whole]
    classical
    apply List.perm_iff_count.mpr
    intro value
    simp only [List.count_append, List.count_cons]
    omega
  · intro κ key tie
    rw [whole]
    simp [tie]
  · rw [cut, ahead, whole]
    intro same
    classical
    have counts := List.perm_iff_count.mp same first
    simp [different.symm] at counts

end Foundation
