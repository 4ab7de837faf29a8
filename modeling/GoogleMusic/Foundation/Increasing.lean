import Mathlib.Data.List.Induction
import Mathlib.Order.Lattice

namespace Foundation

theorem related_of_lt {α : Type} {order : α → α → Prop} {items : List α}
    (related : items.Pairwise order) {first last : Nat} {left right : α}
    (lower : items[first]? = some left) (upper : items[last]? = some right) (less : first < last) :
    order left right := by
  obtain ⟨inside, rfl⟩ := List.getElem?_eq_some_iff.mp lower
  obtain ⟨inner, rfl⟩ := List.getElem?_eq_some_iff.mp upper
  exact List.pairwise_iff_getElem.mp related first last inside inner less

variable {α : Type} [LinearOrder α]

def bisectLoop (items : List α) (item : α) : Nat → Nat → Nat → Nat
  | 0, low, _ => low
  | fuel + 1, low, high =>
      if low < high then
        let middle := (low + high) / 2
        match items[middle]? with
        | some held =>
            if held < item then bisectLoop items item fuel (middle + 1) high
            else bisectLoop items item fuel low middle
        | none => low
      else low

/-- The first place where `item` can stand in the sorted `items`. -/
def bisectLeft (items : List α) (item : α) : Nat :=
  bisectLoop items item items.length 0 items.length

/-- In front of `low` there is only less than `item`, and from `high` on there is none. -/
structure Parted (items : List α) (item : α) (low high : Nat) : Prop where
  ordered : low ≤ high
  within : high ≤ items.length
  below : ∀ index held, items[index]? = some held → index < low → held < item
  above : ∀ index held, items[index]? = some held → high ≤ index → item ≤ held

section Search

variable {items : List α} {item : α} {low high : Nat}

theorem sorted_le (sorted : items.Pairwise (· ≤ ·)) {first last : Nat} {left right : α}
    (lower : items[first]? = some left) (upper : items[last]? = some right) (ordered : first ≤ last) :
    left ≤ right := by
  rcases Nat.lt_or_eq_of_le ordered with less | rfl
  · exact related_of_lt sorted lower upper less
  · exact le_of_eq (Option.some.inj (lower.symm.trans upper))

theorem bisectLoop_parted (sorted : items.Pairwise (· ≤ ·)) (fuel : Nat)
    (parted : Parted items item low high) (enough : high - low ≤ fuel) :
    Parted items item (bisectLoop items item fuel low high) (bisectLoop items item fuel low high) := by
  induction fuel generalizing low high with
  | zero =>
      have ordered := parted.ordered
      obtain rfl : low = high := by omega
      exact parted
  | succ fuel ih =>
      obtain ⟨ordered, within, below, above⟩ := parted
      rw [bisectLoop]
      split
      · have middle : (low + high) / 2 < items.length := by omega
        have held := List.getElem?_eq_getElem middle
        simp only [held]
        split
        · apply ih
          · refine ⟨by omega, within, ?_, above⟩
            intro index other found less
            exact lt_of_le_of_lt (sorted_le sorted found held (by omega)) ‹_›
          · omega
        · apply ih
          · refine ⟨by omega, by omega, below, ?_⟩
            intro index other found more
            exact le_trans (not_lt.mp ‹_›) (sorted_le sorted held found more)
          · omega
      · obtain rfl : low = high := by omega
        exact ⟨ordered, within, below, above⟩

theorem bisectLeft_parted (sorted : items.Pairwise (· ≤ ·)) (item : α) :
    Parted items item (bisectLeft items item) (bisectLeft items item) := by
  apply bisectLoop_parted sorted
  · exact {
      ordered := Nat.zero_le _
      within := Nat.le_refl _
      below := fun _ _ _ less => absurd less (Nat.not_lt_zero _)
      above := fun index held found more => by
        rw [List.getElem?_eq_none more] at found
        cases found }
  · omega

end Search

/-- No rising part of `seen` ends below what `tops` has for its length. -/
def Dominates (tops seen : List α) : Prop :=
  ∀ front last, (front ++ [last]).Sublist seen → (front ++ [last]).Pairwise (· < ·) →
    ∃ top, tops[front.length]? = some top ∧ top ≤ last

def place (tops : List α) (item : α) : List α :=
  if bisectLeft tops item = tops.length then tops ++ [item]
  else tops.set (bisectLeft tops item) item

section Placing

variable {tops seen : List α} {item : α}

theorem place_getElem? (parted : Parted tops item (bisectLeft tops item) (bisectLeft tops item))
    (index : Nat) : (place tops item)[index]? =
      if index = bisectLeft tops item then some item else tops[index]? := by
  have within := parted.within
  unfold place
  split
  · rename_i full
    rw [full]
    rcases Nat.lt_trichotomy index tops.length with less | rfl | more
    · rw [List.getElem?_append_left less, if_neg (by omega)]
    · simp
    · rw [if_neg (by omega), List.getElem?_eq_none (Nat.le_of_lt more), List.getElem?_eq_none]
      rw [List.length_append, List.length_singleton]
      omega
  · rw [List.getElem?_set]
    by_cases here : bisectLeft tops item = index
    · rw [if_pos here, if_pos here.symm, if_pos (by omega)]
    · rw [if_neg here, if_neg (Ne.symm here)]

/-- Up to the place of the new member, nothing is above it. -/
theorem place_le (parted : Parted tops item (bisectLeft tops item) (bisectLeft tops item))
    {index : Nat} (upTo : index ≤ bisectLeft tops item) :
    ∃ top, (place tops item)[index]? = some top ∧ top ≤ item := by
  rw [place_getElem? parted]
  rcases Nat.lt_or_eq_of_le upTo with less | here
  · have inside : index < tops.length := Nat.lt_of_lt_of_le less parted.within
    have held := List.getElem?_eq_getElem inside
    refine ⟨tops[index], ?_, le_of_lt (parted.below index _ held less)⟩
    rw [if_neg (Nat.ne_of_lt less), held]
  · exact ⟨item, if_pos here, le_refl _⟩

theorem place_sorted (sorted : tops.Pairwise (· < ·)) : (place tops item).Pairwise (· < ·) := by
  have parted := bisectLeft_parted (sorted.imp le_of_lt) item
  rw [List.pairwise_iff_getElem]
  intro first last inside inner less
  have left := List.getElem?_eq_getElem inside
  have right := List.getElem?_eq_getElem inner
  rw [place_getElem? parted] at left right
  generalize (place tops item)[first] = lower at left ⊢
  generalize (place tops item)[last] = upper at right ⊢
  split at left
  · rename_i here
    cases left
    rw [if_neg (by omega)] at right
    have place : first < tops.length := by
      have inner := (List.getElem?_eq_some_iff.mp right).1
      omega
    have held := List.getElem?_eq_getElem place
    exact lt_of_le_of_lt (parted.above first _ held (by omega)) (related_of_lt sorted held right less)
  · split at right
    · cases right
      exact parted.below first lower left (by omega)
    · exact related_of_lt sorted left right less

/-- A rising part that ends with the new member is one longer than a part that ends below it. -/
theorem place_dominates (sorted : tops.Pairwise (· < ·)) (dominates : Dominates tops seen) :
    Dominates (place tops item) (seen ++ [item]) := by
  have parted := bisectLeft_parted (sorted.imp le_of_lt) item
  intro front last part rising
  obtain ⟨old, new, split, former, latter⟩ := List.sublist_append_iff.mp part
  rcases List.sublist_cons_iff.mp latter with none | ⟨rest, rfl, none⟩
  · obtain rfl := List.sublist_nil.mp none
    rw [List.append_nil] at split
    subst split
    obtain ⟨top, held, least⟩ := dominates front last former rising
    by_cases here : front.length = bisectLeft tops item
    · refine ⟨item, by rw [place_getElem? parted, if_pos here], ?_⟩
      exact le_trans (parted.above _ top held (by omega)) least
    · exact ⟨top, by rw [place_getElem? parted, if_neg here, held], least⟩
  · obtain rfl := List.sublist_nil.mp none
    obtain ⟨rfl, same⟩ := List.append_inj' split rfl
    cases same
    clear split
    apply place_le parted
    cases front using List.reverseRecOn with
    | nil => exact Nat.zero_le _
    | append_singleton front before =>
        obtain ⟨ended, _, apart⟩ := List.pairwise_append.mp rising
        obtain ⟨top, held, least⟩ := dominates front before former ended
        have less : before < item := apart before (by simp) item (by simp)
        rw [List.length_append, List.length_singleton]
        by_contra beyond
        exact absurd (parted.above _ top held (by omega)) (not_le.mpr (lt_of_le_of_lt least less))

end Placing

theorem Dominates.length_le {tops seen part : List α} (dominates : Dominates tops seen)
    (inside : part.Sublist seen) (rising : part.Pairwise (· < ·)) : part.length ≤ tops.length := by
  cases part using List.reverseRecOn with
  | nil => exact Nat.zero_le _
  | append_singleton front last =>
      obtain ⟨top, held, _⟩ := dominates front last inside rising
      have small := (List.getElem?_eq_some_iff.mp held).1
      rw [List.length_append, List.length_singleton]
      omega

end Foundation
