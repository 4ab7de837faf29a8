import Mathlib.Data.List.Basic

namespace Foundation

variable {α : Type}

structure Shuffle (α : Type) where
  apply : List α → List α
  perm : ∀ values, (apply values).Perm values

def Shuffle.identity : Shuffle α := ⟨id, fun _ => List.Perm.rfl⟩

def Shuffle.redirect [DecidableEq α] (source target : List α) (same : target.Perm source) :
    Shuffle α where
  apply values := if values = source then target else values
  perm values := by
    split
    · rename_i equal
      exact equal ▸ same
    · exact List.Perm.rfl

theorem Shuffle.redirect_apply [DecidableEq α] {source target : List α}
    (same : target.Perm source) : (Shuffle.redirect source target same).apply source = target :=
  if_pos rfl

def mix : Nat → (Nat → Shuffle α) → List α → List α
  | 0, _, values => values
  | count + 1, random, values => mix count (fun i => random (i + 1)) ((random 0).apply values)

theorem mix_perm {count : Nat} {random : Nat → Shuffle α} {values : List α} :
    (mix count random values).Perm values := by
  induction count generalizing random values with
  | zero => exact List.Perm.rfl
  | succ count ih => exact ih.trans ((random 0).perm values)

theorem mix_succ {count : Nat} {random : Nat → Shuffle α} {values : List α} :
    mix (count + 1) random values = (random count).apply (mix count random values) := by
  induction count generalizing random values with
  | zero => rfl
  | succ count ih => rw [mix, ih, mix]

theorem mix_identity {count : Nat} {random : Nat → Shuffle α} {values : List α}
    (still : ∀ i < count, random i = Shuffle.identity) : mix count random values = values := by
  induction count with
  | zero => rfl
  | succ count ih =>
      rw [mix_succ, ih fun i below => still i (Nat.lt_succ_of_lt below), still count (Nat.lt_succ_self _)]
      rfl

/-- A slice bound counts from the end when it is negative, and past either end it
stops there. -/
def sliceBound (length : Nat) (index : Int) : Nat :=
  if index < 0 then (index + length).toNat else min index.toNat length

def slice (values : List α) (start stop : Int) : List α :=
  (values.take (sliceBound values.length stop)).drop (sliceBound values.length start)

theorem slice_of_nonneg (values : List α) (start stop : Nat) :
    slice values start stop = (values.drop start).take (stop - start) := by
  have bound (index : Nat) : sliceBound values.length index = min index values.length := by
    have nonnegative : ¬ (index : Int) < 0 := by omega
    simp [sliceBound, nonnegative]
  rw [slice, bound, bound, List.drop_take]
  rcases Nat.le_total start values.length with inside | outside
  · rw [Nat.min_eq_left inside]
    rcases Nat.le_total stop values.length with short | long
    · rw [Nat.min_eq_left short]
    · rw [Nat.min_eq_right long, List.take_of_length_le (by simp),
        List.take_of_length_le (by simp; omega)]
  · rw [List.drop_eq_nil_of_le outside, List.drop_eq_nil_of_le (by omega)]
    simp

theorem mem_of_mem_slice {values : List α} {start stop : Int} {value : α}
    (member : value ∈ slice values start stop) : value ∈ values :=
  List.mem_of_mem_take (List.mem_of_mem_drop member)

end Foundation
