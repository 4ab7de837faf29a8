import GoogleMusic.Foundation.Exec
import GoogleMusic.Foundation.Runs

/-! # Listings read through page tokens

A server cuts a listing into batches and hands out a token with every batch but the
last.  Reading on until there is no token may take any number of requests, so that the
loop has fuel; over a source whose tokens descend in some rank the fuel is computed and
the loop is total.  What a token stands for is the rest of the listing, and from that
alone follows what a reader ends up with, however the batches are cut and whichever
request fails.
-/

namespace Foundation

structure Batch (κ α : Type) where
  items : List α
  next : Option κ
deriving DecidableEq

namespace Cursor

variable {σ ε κ α β : Type}

/-- The batches from `token` on, with `fuel` requests at most. -/
def drain (fetch : Option κ → Exec σ ε (Batch κ α)) :
    Nat → Option κ → σ → Option (Except ε (List (List α)) × σ)
  | 0, _, _ => none
  | fuel + 1, token, state =>
      match (fetch token).run state with
      | (.error reason, after) => some (.error reason, after)
      | (.ok batch, after) =>
          match batch.next with
          | none => some (.ok [batch.items], after)
          | some next => (drain fetch fuel (some next) after).map fun ending =>
              (ending.1.map (batch.items :: ·), ending.2)

section Drain

variable {fetch : Option κ → Exec σ ε (Batch κ α)} {fuel more : Nat} {token : Option κ}
variable {state : σ} {ending : Except ε (List (List α)) × σ}

/-- All that a finished reading can have done with its first request. -/
inductive DrainOutcome (fetch : Option κ → Exec σ ε (Batch κ α)) (fuel : Nat) (token : Option κ)
    (state : σ) : Except ε (List (List α)) × σ → Prop where
  | failed {reason : ε} {after : σ} (answered : (fetch token).run state = (.error reason, after)) :
      DrainOutcome fetch fuel token state (.error reason, after)
  | last {batch : Batch κ α} {after : σ} (answered : (fetch token).run state = (.ok batch, after))
      (ends : batch.next = none) : DrainOutcome fetch fuel token state (.ok [batch.items], after)
  | continued {batch : Batch κ α} {after : σ} {next : κ} {ending : Except ε (List (List α)) × σ}
      (answered : (fetch token).run state = (.ok batch, after)) (goes : batch.next = some next)
      (rest : drain fetch fuel (some next) after = some ending) :
      DrainOutcome fetch fuel token state (ending.1.map (batch.items :: ·), ending.2)

theorem drain_outcome (finished : drain fetch (fuel + 1) token state = some ending) :
    DrainOutcome fetch fuel token state ending := by
  rw [drain] at finished
  cases answered : (fetch token).run state with
  | mk outcome after =>
      rw [answered] at finished
      cases outcome with
      | error reason =>
          cases finished
          exact .failed answered
      | ok batch =>
          cases goes : batch.next with
          | none =>
              simp only [goes, Option.some.injEq] at finished
              subst finished
              exact .last answered goes
          | some next =>
              simp only [goes, Option.map_eq_some_iff] at finished
              obtain ⟨rest, ran, rfl⟩ := finished
              exact .continued answered goes ran

theorem drain_of_outcome (outcome : DrainOutcome fetch fuel token state ending) :
    drain fetch (fuel + 1) token state = some ending := by
  cases outcome with
  | failed answered => simp only [drain, answered]
  | last answered ends => simp only [drain, answered, ends]
  | continued answered goes rest => simp only [drain, answered, goes, rest, Option.map_some]

/-- More fuel changes nothing. -/
theorem drain_mono (finished : drain fetch fuel token state = some ending) (enough : fuel ≤ more) :
    drain fetch more token state = some ending := by
  induction fuel generalizing token state ending more with
  | zero => cases finished
  | succ fuel ih =>
      obtain ⟨more, rfl⟩ : ∃ rest, more = rest + 1 := ⟨more - 1, by omega⟩
      apply drain_of_outcome
      cases drain_outcome finished with
      | failed answered => exact .failed answered
      | last answered ends => exact .last answered ends
      | continued answered goes rest => exact .continued answered goes (ih rest (by omega))

theorem kept_of_keeps {inv : σ → Prop} {body : Exec σ ε β} {outcome : Except ε β} {after : σ}
    (keeps : body.Keeps inv) (held : inv state) (ran : body.run state = (outcome, after)) :
    inv after := by
  have kept := keeps state held
  rw [Exec.final, ran] at kept
  exact kept

/-- What every request keeps, the reading keeps, whether it comes back or raises. -/
theorem drain_keeps {inv : σ → Prop} (keeps : ∀ token, (fetch token).Keeps inv) (held : inv state)
    (finished : drain fetch fuel token state = some ending) : inv ending.2 := by
  induction fuel generalizing token state ending with
  | zero => cases finished
  | succ fuel ih =>
      cases drain_outcome finished with
      | failed answered => exact kept_of_keeps (keeps token) held answered
      | last answered ends => exact kept_of_keeps (keeps token) held answered
      | continued answered goes rest =>
          have kept := ih (kept_of_keeps (keeps token) held answered) rest
          exact kept

theorem drain_unique {other : Except ε (List (List α)) × σ}
    (finished : drain fetch fuel token state = some ending)
    (again : drain fetch more token state = some other) : other = ending := by
  have first := drain_mono finished (Nat.le_max_left fuel more)
  have second := drain_mono again (Nat.le_max_right fuel more)
  exact Option.some.inj (second.symm.trans first)

end Drain

/-- However a request is answered, the token it hands out ranks below the one it was
asked with, in the state that the request leaves. -/
def Descends (rank : σ → Option κ → Nat) (fetch : Option κ → Exec σ ε (Batch κ α)) : Prop :=
  ∀ token state batch after next, (fetch token).run state = (.ok batch, after) →
    batch.next = some next → rank after (some next) < rank state token

theorem drain_enough {rank : σ → Option κ → Nat} {fetch : Option κ → Exec σ ε (Batch κ α)}
    (descends : Descends rank fetch) {fuel : Nat} {token : Option κ} {state : σ}
    (enough : rank state token < fuel) : (drain fetch fuel token state).isSome = true := by
  induction fuel generalizing token state with
  | zero => omega
  | succ fuel ih =>
      rw [drain]
      cases answered : (fetch token).run state with
      | mk outcome after =>
          cases outcome with
          | error reason => rfl
          | ok batch =>
              cases goes : batch.next with
              | none => simp only [goes, Option.isSome_some]
              | some next =>
                  have lower := descends token state batch after next answered goes
                  simp only [goes, Option.isSome_map]
                  exact ih (by omega)

structure Source (σ ε κ α : Type) where
  fetch : Option κ → Exec σ ε (Batch κ α)
  rank : σ → Option κ → Nat
  descends : Descends rank fetch

namespace Source

variable {source : Source σ ε κ α} {token : Option κ} {state : σ}

/-- Every batch from `token` on, or the exception of the first request that raises. -/
def chunks (source : Source σ ε κ α) (token : Option κ) : Exec σ ε (List (List α)) := ⟨fun state =>
  (drain source.fetch (source.rank state token + 1) token state).get
    (drain_enough source.descends (Nat.lt_succ_self _))⟩

theorem drain_eq_chunks (source : Source σ ε κ α) (token : Option κ) (state : σ) :
    drain source.fetch (source.rank state token + 1) token state =
      some ((source.chunks token).run state) := by
  rw [chunks, Option.some_get]

/-- The computed fuel is no restriction: a reading with any fuel that comes to an end
comes to the same one. -/
theorem chunks_of_drain {fuel : Nat} {ending : Except ε (List (List α)) × σ}
    (finished : drain source.fetch fuel token state = some ending) :
    (source.chunks token).run state = ending :=
  drain_unique finished (drain_eq_chunks source token state)

end Source

/-- In the states of `inv` the listing from `token` on is `rest token`: every batch is a
piece of it, and the next token stands for what is left. -/
structure Pages (inv : σ → Prop) (rest : Option κ → List α)
    (fetch : Option κ → Exec σ ε (Batch κ α)) : Prop where
  keeps : ∀ token, (fetch token).Keeps inv
  cuts : ∀ token state batch, inv state → (fetch token).Returns state batch →
    rest token = batch.items ++ batch.next.elim [] fun next => rest (some next)

section Pages

variable {inv : σ → Prop} {rest : Option κ → List α} {fetch : Option κ → Exec σ ε (Batch κ α)}
variable {token : Option κ} {state : σ}

theorem Pages.cut (pages : Pages inv rest fetch) (held : inv state) {batch : Batch κ α} {after : σ}
    (answered : (fetch token).run state = (.ok batch, after)) :
    rest token = batch.items ++ batch.next.elim [] fun next => rest (some next) :=
  pages.cuts token state batch held (by rw [Exec.Returns, answered])

/-- A reading that comes back has the whole rest of the listing, in order and without
repetition, however it was cut; one that raised has nothing. -/
theorem drain_reads (pages : Pages inv rest fetch) {fuel : Nat} {chunks : List (List α)} {after : σ}
    (held : inv state) (finished : drain fetch fuel token state = some (.ok chunks, after)) :
    chunks.flatten = rest token := by
  induction fuel generalizing token state chunks with
  | zero => cases finished
  | succ fuel ih =>
      generalize ran : ((.ok chunks : Except ε (List (List α))), after) = ending at finished
      cases drain_outcome finished with
      | failed answered => cases ran
      | @last batch after answered ends =>
          cases ran
          rw [pages.cut held answered, ends]
          simp
      | @continued batch middle next ending answered goes tail =>
          obtain ⟨outcome, left⟩ := ending
          cases outcome with
          | error reason => cases ran
          | ok later =>
              cases ran
              have whole := ih (kept_of_keeps (pages.keeps token) held answered) tail
              rw [pages.cut held answered, goes, List.flatten_cons, whole]
              rfl

theorem Source.chunks_keeps (source : Source σ ε κ α) (token : Option κ)
    (keeps : ∀ token, (source.fetch token).Keeps inv) : (source.chunks token).Keeps inv :=
  fun state held => drain_keeps keeps held (source.drain_eq_chunks token state)

theorem Source.chunks_reads (source : Source σ ε κ α) (token : Option κ)
    (pages : Pages inv rest source.fetch) (held : inv state) {chunks : List (List α)}
    (returned : (source.chunks token).Returns state chunks) : chunks.flatten = rest token := by
  obtain ⟨after, ran⟩ := Exec.returns_iff_run.mp returned
  have finished := source.drain_eq_chunks token state
  rw [ran] at finished
  exact drain_reads pages held finished

end Pages

/-- Where an interrupted reading stands: before the request for a token, at the end of
the listing, or past an exception, which ends it for good. -/
inductive Position (κ : Type) where
  | asking (token : Option κ)
  | finished
  | broken
deriving DecidableEq

def Position.following (next : Option κ) : Position κ := next.elim .finished fun token => .asking (some token)

structure Reading (σ κ α : Type) where
  position : Position κ
  taken : List (List α)
  state : σ

/-- Take one more batch.  Past the end there is none, and the state stays as it is. -/
def Reading.advance (fetch : Option κ → Exec σ ε (Batch κ α)) (reading : Reading σ κ α) :
    Reading σ κ α :=
  match reading.position with
  | .asking token =>
      match (fetch token).run reading.state with
      | (.ok batch, state) =>
          { position := .following batch.next, taken := reading.taken ++ [batch.items], state }
      | (.error _, state) => { position := .broken, taken := reading.taken, state }
  | .finished | .broken => reading

/-- Between two batches the reader may do anything else to the state. -/
inductive Move (σ : Type) where
  | advance
  | other (change : σ → σ)

def readingSystem (fetch : Option κ → Exec σ ε (Batch κ α)) : System (Reading σ κ α) (Move σ) where
  step
    | .advance, reading => some (reading.advance fetch)
    | .other change, reading => some { reading with state := change reading.state }

def Reading.opened (state : σ) : Reading σ κ α where
  position := .asking none
  taken := []
  state

def Position.remaining (rest : Option κ → List α) : Position κ → List α
  | .asking token => rest token
  | .finished | .broken => []

theorem Position.remaining_following (rest : Option κ → List α) (next : Option κ) :
    (Position.following next).remaining rest = next.elim [] fun token => rest (some token) := by
  cases next <;> rfl

/-- What has been taken is the listing up to the reader's position. -/
structure Reading.Sound (inv : σ → Prop) (rest : Option κ → List α) (reading : Reading σ κ α) :
    Prop where
  held : inv reading.state
  accounted : reading.position ≠ .broken →
    reading.taken.flatten ++ reading.position.remaining rest = rest none
  prefixed : reading.taken.flatten <+: rest none

def KeepsListing (inv : σ → Prop) : Move σ → Reading σ κ α → Prop
  | .advance, _ => True
  | .other change, reading => inv reading.state → inv (change reading.state)

section Reading

variable {inv : σ → Prop} {rest : Option κ → List α} {fetch : Option κ → Exec σ ε (Batch κ α)}
variable {reading next : Reading σ κ α} {move : Move σ}

theorem Reading.advance_sound (pages : Pages inv rest fetch) (sound : reading.Sound inv rest) :
    (reading.advance fetch).Sound inv rest := by
  unfold Reading.advance
  cases place : reading.position with
  | finished => exact sound
  | broken => exact sound
  | asking token =>
      cases answered : (fetch token).run reading.state with
      | mk outcome state =>
          have kept := kept_of_keeps (pages.keeps token) sound.held answered
          cases outcome with
          | error reason =>
              simp only [answered]
              exact ⟨kept, fun unbroken => absurd rfl unbroken, sound.prefixed⟩
          | ok batch =>
              have before := sound.accounted (by simp [place])
              rw [place, Position.remaining, pages.cut sound.held answered,
                ← Position.remaining_following, ← List.append_assoc] at before
              have taken : (reading.taken ++ [batch.items]).flatten =
                  reading.taken.flatten ++ batch.items := by simp
              simp only [answered]
              exact ⟨kept, fun _ => by rw [taken]; exact before, ⟨_, by rw [taken]; exact before⟩⟩

theorem readingStep_sound (pages : Pages inv rest fetch) (sound : reading.Sound inv rest)
    (step : (readingSystem fetch).step move reading = some next)
    (admitted : KeepsListing inv move reading) : next.Sound inv rest := by
  cases move with
  | advance =>
      cases step
      exact Reading.advance_sound pages sound
  | other change =>
      cases step
      exact ⟨admitted sound.held, sound.accounted, sound.prefixed⟩

/-- However a reading is interleaved with other work that leaves the listing alone, what
it has taken is a beginning of the listing, and all of it once the end is reached. -/
theorem always_reads (pages : Pages inv rest fetch) {state : σ} (held : inv state)
    {moves : List (Move σ)}
    (admitted : (readingSystem fetch).Admits (KeepsListing inv) moves (.opened state)) :
    (readingSystem fetch).Always (fun reading => reading.taken.flatten <+: rest none ∧
      (reading.position = .finished → reading.taken.flatten = rest none)) moves (.opened state) := by
  have start : (Reading.opened state : Reading σ κ α).Sound inv rest :=
    ⟨held, fun _ => rfl, List.nil_prefix⟩
  refine (System.always_of_keeps (readingStep_sound pages) start admitted).imp
    fun reading sound => ⟨sound.prefixed, fun ended => ?_⟩
  have whole := sound.accounted (by simp [ended])
  simpa [ended, Position.remaining] using whole

end Reading

end Cursor

end Foundation
