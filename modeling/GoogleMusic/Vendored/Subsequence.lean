import GoogleMusic.Data
import GoogleMusic.Foundation.Increasing
import GoogleMusic.Foundation.Traversal

/-! # The longest increasing subsequence

`longest_increasing_subseq` keeps two arrays of positions: the ends of the best parts yet
found, one for each length, and for each position the one before it in the best part that
ends there.  The subsequence is traced back along the second from the last of the first.
-/

namespace GoogleMusic

open Foundation

variable {α : Type}

def itemAt (items : List α) (index : Nat) : Except Raised α :=
  match items[index]? with
  | some item => .ok item
  | none => .error .indexError

theorem itemAt_of_some {items : List α} {index : Nat} {item : α} (found : items[index]? = some item) :
    itemAt items index = .ok item := by
  rw [itemAt, found]

structure Trail where
  head : List Nat
  predecessor : List Int
deriving DecidableEq

def Trail.start : Trail where
  head := [0]
  predecessor := [-1]

/-- `head` with position `i`, which holds `item`, written to its place `j`. -/
def headsWith [LinearOrder α] (seq : List α) (head : List Nat) (i j : Nat) (item : α) :
    Except Raised (List Nat) := do
  let head := if j = head.length then head ++ [i] else head
  let best ← itemAt head j
  let top ← itemAt seq best
  pure (if item < top then head.set j i else head)

def predecessorAt (head : List Nat) (j : Nat) : Except Raised Int :=
  if 0 < j then Int.ofNat <$> itemAt head (j - 1) else pure (-1)

/-- The body of the loop over the positions behind the first. -/
def Trail.step [LinearOrder α] (seq : List α) (trail : Trail) (i : Nat) : Except Raised Trail := do
  let held ← trail.head.mapM (itemAt seq)
  let item ← itemAt seq i
  let j := bisectLeft held item
  let head ← headsWith seq trail.head i j item
  let before ← predecessorAt head j
  pure { head, predecessor := trail.predecessor ++ [before] }

/-- `none` where the trace goes on for longer than `fuel`. -/
def traceBack (seq : List α) (predecessor : List Int) :
    Nat → Int → List α → Except Raised (Option (List α))
  | 0, _, _ => .ok none
  | _ + 1, .negSucc _, result => .ok (some result)
  | fuel + 1, .ofNat index, result => do
      let item ← itemAt seq index
      let before ← itemAt predecessor index
      traceBack seq predecessor fuel before (result ++ [item])

def longestIncreasingSubseq [LinearOrder α] (seq : List α) : Except Raised (Option (List α)) :=
  if seq.isEmpty then .ok (some [])
  else do
    let trail ← (List.range' 1 (seq.length - 1)).foldlM (Trail.step seq) Trail.start
    let last ← itemAt trail.head (trail.head.length - 1)
    let result ← traceBack seq trail.predecessor (seq.length + 1) last []
    pure (result.map List.reverse)

/-- The trace from a position runs through `chain`, every member less than the one before it
and further to the left. -/
inductive Falls [LinearOrder α] (seq : List α) (predecessor : List Int) : Nat → List α → Prop where
  | first {index : Nat} {item : α} (found : seq[index]? = some item)
      (ends : predecessor[index]? = some (-1)) : Falls seq predecessor index [item]
  | next {index before : Nat} {item held : α} {chain : List α} (found : seq[index]? = some item)
      (points : predecessor[index]? = some (Int.ofNat before)) (left : before < index)
      (less : held < item) (falls : Falls seq predecessor before (held :: chain)) :
      Falls seq predecessor index (item :: held :: chain)

section Tracing

variable [LinearOrder α] {seq chain result : List α} {predecessor : List Int}
variable {index fuel : Nat} {item : α}

theorem Falls.extend (falls : Falls seq predecessor index chain) (before : Int) :
    Falls seq (predecessor ++ [before]) index chain := by
  have old {place : Nat} {held : Int} (found : predecessor[place]? = some held) :
      (predecessor ++ [before])[place]? = some held := by
    rw [List.getElem?_append_left (List.getElem?_eq_some_iff.mp found).1, found]
  induction falls with
  | first found ends => exact .first found (old ends)
  | next found points left less _ ih => exact .next found (old points) left less ih

theorem Falls.falling (falls : Falls seq predecessor index chain) :
    chain.Pairwise fun later earlier => earlier < later := by
  rw [← List.isChain_iff_pairwise]
  induction falls with
  | first => exact .singleton _
  | next _ _ _ less _ ih => exact .cons_cons less ih

theorem Falls.sublist (falls : Falls seq predecessor index chain) :
    chain.reverse.Sublist (seq.take (index + 1)) := by
  induction falls with
  | first found _ =>
      rw [List.take_add_one, found]
      exact List.sublist_append_right _ _
  | next found _ left _ _ ih =>
      rw [List.take_add_one, found, List.reverse_cons]
      exact (ih.trans (List.take_sublist_take_left left)).append (List.Sublist.refl _)

theorem Falls.head (falls : Falls seq predecessor index (item :: chain)) : seq[index]? = some item := by
  cases falls with
  | first found _ => exact found
  | next found => exact found

theorem Falls.traced (falls : Falls seq predecessor index chain) (enough : index + 1 < fuel) :
    traceBack seq predecessor fuel (Int.ofNat index) result = .ok (some (result ++ chain)) := by
  induction falls generalizing fuel result with
  | first found ends =>
      match fuel, enough with
      | fuel + 2, _ =>
          rw [traceBack, itemAt_of_some found, itemAt_of_some ends]
          rfl
  | next found points left less falls ih =>
      match fuel, enough with
      | fuel + 1, enough =>
          rw [traceBack, itemAt_of_some found, itemAt_of_some points]
          change traceBack seq predecessor fuel _ _ = _
          rw [ih (by omega), List.append_assoc]
          rfl

end Tracing

/-- `tops` are the members that the best parts of the first `seen` members end with. -/
structure Trail.Sound [LinearOrder α] (seq : List α) (seen : Nat) (trail : Trail) (tops : List α) :
    Prop where
  filled : trail.predecessor.length = seen
  length : trail.head.length = tops.length
  ends : ∀ (k index : Nat), trail.head[k]? = some index →
    ∃ top, tops[k]? = some top ∧ seq[index]? = some top
  sorted : tops.Pairwise (· < ·)
  dominates : Dominates tops (seq.take seen)
  falls : ∀ (k index : Nat), trail.head[k]? = some index →
    index < seen ∧ ∃ chain, chain.length = k + 1 ∧ Falls seq trail.predecessor index chain

section Laying

variable [LinearOrder α] {seq tops : List α} {trail : Trail} {seen : Nat} {item : α}

theorem Trail.Sound.held (sound : trail.Sound seq seen tops) :
    trail.head.mapM (itemAt seq) = .ok tops := by
  rw [mapM_eq_ok_iff, List.forall₂_iff_get]
  refine ⟨sound.length, fun k inside inner => ?_⟩
  obtain ⟨top, held, found⟩ := sound.ends k _ (List.getElem?_eq_getElem inside)
  rw [List.getElem?_eq_getElem inner] at held
  cases held
  exact itemAt_of_some found

theorem Trail.start_sound (found : seq[0]? = some item) : Trail.start.Sound seq 1 [item] where
  filled := rfl
  length := rfl
  ends k index read := by
    match k, read with
    | 0, rfl => exact ⟨item, rfl, found⟩
  sorted := List.pairwise_singleton _ _
  dominates := by
    have none : Dominates ([] : List α) [] := by
      intro front last part _
      exact absurd (List.sublist_nil.mp part) (by simp)
    rw [List.take_one, List.head?_eq_getElem?, found]
    exact place_dominates List.Pairwise.nil none
  falls k index read := by
    match k, read with
    | 0, rfl => exact ⟨Nat.zero_lt_one, [item], rfl, .first found rfl⟩

/-- The heads that a step leaves: the position stands at its own place if anywhere, and a
head that keeps its place there ends with an equal item. -/
theorem headsWith_run (sound : trail.Sound seq seen tops) (found : seq[seen]? = some item) :
    ∃ head, headsWith seq trail.head seen (bisectLeft tops item) item = .ok head ∧
      head.length = (place tops item).length ∧
      ∀ k index, head[k]? = some index → k = bisectLeft tops item ∧ index = seen ∨
        trail.head[k]? = some index ∧ (k = bisectLeft tops item → tops[k]? = some item) := by
  have parted := bisectLeft_parted (sound.sorted.imp le_of_lt) item
  have length := sound.length
  by_cases full : bisectLeft tops item = trail.head.length
  · have last : (trail.head ++ [seen])[bisectLeft tops item]? = some seen := by
      rw [full, List.getElem?_concat_length]
    refine ⟨trail.head ++ [seen], ?_, ?_, ?_⟩
    · rw [headsWith, if_pos full]
      simp only [itemAt_of_some last, itemAt_of_some found, bind, Except.bind, lt_irrefl, if_false]
      rfl
    · rw [place, if_pos (full.trans length), List.length_append, List.length_append, length]
      rfl
    · intro k index read
      rcases Nat.lt_or_ge k trail.head.length with less | more
      · rw [List.getElem?_append_left less] at read
        exact Or.inr ⟨read, fun here => by omega⟩
      · have inside := (List.getElem?_eq_some_iff.mp read).1
        rw [List.length_append, List.length_singleton] at inside
        obtain rfl : k = bisectLeft tops item := by omega
        rw [last] at read
        cases read
        exact Or.inl ⟨rfl, rfl⟩
  · have inside : bisectLeft tops item < trail.head.length := by
      have within := parted.within
      omega
    have best := List.getElem?_eq_getElem inside
    obtain ⟨top, held, ends⟩ := sound.ends _ _ best
    refine ⟨if item < top then trail.head.set (bisectLeft tops item) seen else trail.head, ?_, ?_, ?_⟩
    · rw [headsWith, if_neg full]
      simp only [itemAt_of_some best, itemAt_of_some ends, bind, Except.bind]
      rfl
    · have size : (place tops item).length = tops.length := by
        rw [place, if_neg (fun same => full (same.trans length.symm)), List.length_set]
      rw [size]
      split
      · rw [List.length_set, length]
      · exact length
    · intro k index read
      split at read
      · by_cases here : k = bisectLeft tops item
        · subst here
          rw [List.getElem?_set_self inside] at read
          cases read
          exact Or.inl ⟨rfl, rfl⟩
        · rw [List.getElem?_set_ne (Ne.symm here)] at read
          exact Or.inr ⟨read, fun same => absurd same here⟩
      · refine Or.inr ⟨read, fun here => ?_⟩
        subst here
        have least := parted.above _ top held (Nat.le_refl _)
        rw [held, le_antisymm (not_lt.mp ‹_›) least]

/-- A new position points to the best part that ends below its item, one member shorter. -/
theorem Trail.Sound.pointed {head : List Nat} (sound : trail.Sound seq seen tops)
    (found : seq[seen]? = some item) (size : head.length = (place tops item).length)
    (shape : ∀ (k index : Nat), head[k]? = some index → k = bisectLeft tops item ∧ index = seen ∨
      trail.head[k]? = some index ∧ (k = bisectLeft tops item → tops[k]? = some item)) :
    ∃ before, predecessorAt head (bisectLeft tops item) = .ok before ∧
      ∃ chain, chain.length = bisectLeft tops item + 1 ∧
        Falls seq (trail.predecessor ++ [before]) seen chain := by
  have parted := bisectLeft_parted (sound.sorted.imp le_of_lt) item
  have last (before : Int) : (trail.predecessor ++ [before])[seen]? = some before := by
    rw [← sound.filled, List.getElem?_concat_length]
  by_cases leads : 0 < bisectLeft tops item
  · obtain ⟨_, placed, _⟩ := place_le parted (Nat.sub_le (bisectLeft tops item) 1)
    have inside := (List.getElem?_eq_some_iff.mp placed).1
    rw [← size] at inside
    have read := List.getElem?_eq_getElem inside
    generalize head[bisectLeft tops item - 1] = before at read
    refine ⟨Int.ofNat before, by rw [predecessorAt, if_pos leads, itemAt_of_some read]; rfl, ?_⟩
    rcases shape _ before read with ⟨here, _⟩ | ⟨kept, _⟩
    · omega
    · obtain ⟨left, chain, reach, falls⟩ := sound.falls _ before kept
      obtain ⟨top, held, ends⟩ := sound.ends _ before kept
      cases chain with
      | nil => cases reach
      | cons first chain =>
          cases falls.head.symm.trans ends
          have less := parted.below _ top held (by omega)
          refine ⟨item :: top :: chain, ?_, .next found (last _) left less (falls.extend _)⟩
          rw [List.length_cons, reach]
          omega
  · have zero : bisectLeft tops item = 0 := by omega
    exact ⟨-1, if_neg leads, [item], by rw [zero]; rfl, .first found (last (-1))⟩

theorem Trail.step_sound (sound : trail.Sound seq seen tops) (found : seq[seen]? = some item) :
    ∃ next, trail.step seq seen = .ok next ∧ next.Sound seq (seen + 1) (place tops item) := by
  have parted := bisectLeft_parted (sound.sorted.imp le_of_lt) item
  obtain ⟨head, written, size, shape⟩ := headsWith_run sound found
  obtain ⟨before, pointed, chain, reach, falls⟩ := sound.pointed found size shape
  refine ⟨{ head, predecessor := trail.predecessor ++ [before] }, ?_, ?_⟩
  · rw [Trail.step, sound.held]
    simp only [itemAt_of_some found, written, pointed, bind, Except.bind]
    rfl
  · exact {
      filled := by rw [List.length_append, sound.filled, List.length_singleton]
      length := size
      ends := fun k index read => by
        rw [place_getElem? parted]
        rcases shape k index read with ⟨here, rfl⟩ | ⟨kept, equal⟩
        · exact ⟨item, if_pos here, found⟩
        · obtain ⟨top, held, ends⟩ := sound.ends k index kept
          by_cases here : k = bisectLeft tops item
          · rw [equal here] at held
            cases held
            exact ⟨item, if_pos here, ends⟩
          · exact ⟨top, by rw [if_neg here, held], ends⟩
      sorted := place_sorted sound.sorted
      dominates := by
        rw [List.take_add_one, found]
        exact place_dominates sound.sorted sound.dominates
      falls := fun k index read => by
        rcases shape k index read with ⟨rfl, rfl⟩ | ⟨kept, _⟩
        · exact ⟨Nat.lt_succ_self _, chain, reach, falls⟩
        · obtain ⟨less, chain, reach, falls⟩ := sound.falls k index kept
          exact ⟨Nat.lt_succ_of_lt less, chain, reach, falls.extend before⟩ }

theorem Trail.steps_sound (count : Nat) (sound : trail.Sound seq seen tops)
    (within : seen + count ≤ seq.length) :
    ∃ last ends, (List.range' seen count).foldlM (Trail.step seq) trail = .ok last ∧
      last.Sound seq (seen + count) ends := by
  induction count generalizing seen trail tops with
  | zero => exact ⟨trail, tops, rfl, sound⟩
  | succ count ih =>
      have inside : seen < seq.length := by omega
      obtain ⟨next, stepped, follows⟩ := step_sound sound (List.getElem?_eq_getElem inside)
      obtain ⟨last, ends, ran, final⟩ := ih follows (by omega)
      refine ⟨last, ends, ?_, by rwa [Nat.add_right_comm] at final⟩
      rw [List.range'_succ, List.foldlM_cons, stepped]
      exact ran

end Laying

/-- The function returns for every list, and what it returns is an increasing subsequence of
the list that no other one exceeds in length. -/
theorem longestIncreasingSubseq_longest [LinearOrder α] (seq : List α) :
    ∃ result, longestIncreasingSubseq seq = .ok (some result) ∧ result.Sublist seq ∧
      result.Pairwise (· < ·) ∧ ∀ other : List α, other.Sublist seq → other.Pairwise (· < ·) →
        other.length ≤ result.length := by
  cases seq with
  | nil =>
      refine ⟨[], rfl, List.Sublist.refl _, List.Pairwise.nil, fun other part _ => ?_⟩
      rw [List.sublist_nil.mp part]
  | cons item rest =>
      obtain ⟨trail, tops, laid, sound⟩ := Trail.steps_sound rest.length
        (Trail.start_sound (rfl : (item :: rest)[0]? = some item))
        (by rw [List.length_cons, Nat.add_comm])
      rw [Nat.add_comm 1, ← List.length_cons (a := item)] at sound
      have longest {other : List α} (part : other.Sublist (item :: rest))
          (rising : other.Pairwise (· < ·)) : other.length ≤ tops.length :=
        sound.dominates.length_le (by rwa [List.take_length]) rising
      have some : 0 < trail.head.length := by
        rw [sound.length]
        exact longest (List.singleton_sublist.mpr List.mem_cons_self)
          (List.pairwise_singleton (· < ·) item)
      have last := List.getElem?_eq_getElem (Nat.sub_lt some Nat.zero_lt_one)
      obtain ⟨inside, chain, length, falls⟩ := sound.falls _ _ last
      refine ⟨chain.reverse, ?_, falls.sublist.trans (List.take_sublist _ _),
        List.pairwise_reverse.mpr falls.falling, fun other part rising => ?_⟩
      · rw [longestIncreasingSubseq, if_neg (by simp)]
        change ((List.range' 1 rest.length).foldlM (Trail.step (item :: rest)) .start >>= _) = _
        simp only [laid, itemAt_of_some last, bind, Except.bind]
        rw [← Int.ofNat_eq_natCast, falls.traced (by omega), List.nil_append]
        rfl
      · have bound := longest part rising
        rw [← sound.length] at bound
        rw [List.length_reverse, length]
        omega

example : longestIncreasingSubseq [3, 1, 4, 1, 5, 9, 2, 6, 5, 3, 5, 8, 9, 7, 9] =
    .ok (some [1, 2, 3, 5, 8, 9]) := by decide

end GoogleMusic
