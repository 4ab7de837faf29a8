import Mathlib.Tactic.TypeStar

/-! # Computations that write a state and may raise

An imperative method reads and writes a state and either returns or raises.
A raise keeps every write made before it, so the final state stands beside the
outcome and not inside it.  The module gives the operations such a method is
written with, one inversion rule for sequencing, and the rules that carry an
invariant through a method whichever way it ends.
-/

namespace Foundation

structure Exec (σ ε α : Type) where
  run : σ → Except ε α × σ

namespace Exec

variable {σ τ ε δ α β γ : Type}

instance : Monad (Exec σ ε) where
  pure value := ⟨fun state => (.ok value, state)⟩
  bind first next := ⟨fun state =>
    match first.run state with
    | (.ok value, middle) => (next value).run middle
    | (.error reason, middle) => (.error reason, middle)⟩

def raise (reason : ε) : Exec σ ε α := ⟨fun state => (.error reason, state)⟩

/-- Run `handler` on the state the raise left behind. -/
def handle (body : Exec σ ε α) (handler : ε → Exec σ ε α) : Exec σ ε α := ⟨fun state =>
  match body.run state with
  | (.ok value, middle) => (.ok value, middle)
  | (.error reason, middle) => (handler reason).run middle⟩

def gets (read : σ → α) : Exec σ ε α := ⟨fun state => (.ok (read state), state)⟩

def modify (write : σ → σ) : Exec σ ε Unit := ⟨fun state => (.ok (), write state)⟩

def lift (outcome : Except ε α) : Exec σ ε α := ⟨fun state => (outcome, state)⟩

def when (condition : Bool) (body : Exec σ ε Unit) : Exec σ ε Unit :=
  if condition then body else pure ()

def zoom (view : τ → σ) (update : σ → τ → τ) (body : Exec σ ε α) : Exec τ ε α := ⟨fun state =>
  let result := body.run (view state)
  (result.1, update result.2 state)⟩

def mapError (read : ε → δ) (body : Exec σ ε α) : Exec σ δ α := ⟨fun state =>
  let result := body.run state
  (result.1.mapError read, result.2)⟩

/-- The state a computation leaves, whether it returns or raises. -/
def final (body : Exec σ ε α) (state : σ) : σ := (body.run state).2

def Returns (body : Exec σ ε α) (state : σ) (value : α) : Prop :=
  (body.run state).1 = .ok value

def Raises (body : Exec σ ε α) (state : σ) (reason : ε) : Prop :=
  (body.run state).1 = .error reason

@[simp] theorem run_pure (value : α) (state : σ) :
    (pure value : Exec σ ε α).run state = (.ok value, state) := rfl

@[simp] theorem run_bind (first : Exec σ ε α) (next : α → Exec σ ε β) (state : σ) :
    (first >>= next).run state =
      match first.run state with
      | (.ok value, middle) => (next value).run middle
      | (.error reason, middle) => (.error reason, middle) := rfl

@[simp] theorem run_map (read : α → β) (body : Exec σ ε α) (state : σ) :
    (read <$> body).run state =
      match body.run state with
      | (.ok value, middle) => (.ok (read value), middle)
      | (.error reason, middle) => (.error reason, middle) := rfl

@[simp] theorem run_raise (reason : ε) (state : σ) :
    (raise reason : Exec σ ε α).run state = (.error reason, state) := rfl

@[simp] theorem run_handle (body : Exec σ ε α) (handler : ε → Exec σ ε α) (state : σ) :
    (handle body handler).run state =
      match body.run state with
      | (.ok value, middle) => (.ok value, middle)
      | (.error reason, middle) => (handler reason).run middle := rfl

@[simp] theorem run_gets (read : σ → α) (state : σ) :
    (gets read : Exec σ ε α).run state = (.ok (read state), state) := rfl

@[simp] theorem run_modify (write : σ → σ) (state : σ) :
    (modify write : Exec σ ε Unit).run state = (.ok (), write state) := rfl

@[simp] theorem run_lift (outcome : Except ε α) (state : σ) :
    (lift outcome : Exec σ ε α).run state = (outcome, state) := rfl

@[simp] theorem run_zoom (view : τ → σ) (update : σ → τ → τ) (body : Exec σ ε α) (state : τ) :
    (zoom view update body).run state =
      ((body.run (view state)).1, update (body.run (view state)).2 state) := rfl

@[simp] theorem run_mapError (read : ε → δ) (body : Exec σ ε α) (state : σ) :
    (mapError read body).run state = ((body.run state).1.mapError read, (body.run state).2) := rfl

@[simp] theorem when_true (body : Exec σ ε Unit) : when true body = body := rfl

@[simp] theorem when_false (body : Exec σ ε Unit) : when false body = pure () := rfl

theorem run_when_modify (condition : Bool) (write : σ → σ) (state : σ) :
    (when condition (modify write) : Exec σ ε Unit).run state =
      (.ok (), if condition then write state else state) := by
  cases condition <;> rfl

@[simp] theorem run_ite (condition : Prop) [Decidable condition] (left right : Exec σ ε α)
    (state : σ) :
    (if condition then left else right).run state =
      if condition then left.run state else right.run state := by
  split <;> rfl

theorem final_map (read : α → β) (body : Exec σ ε α) (state : σ) :
    (read <$> body).final state = body.final state := by
  rw [final, final, run_map]
  cases ran : body.run state with
  | mk outcome after => cases outcome <;> rfl

theorem eq_of_run {first second : Exec σ ε α} (same : ∀ state, first.run state = second.run state) :
    first = second := congrArg Exec.mk (funext same)

theorem id_map (body : Exec σ ε α) : id <$> body = body := by
  apply eq_of_run
  intro state
  rw [run_map]
  cases ran : body.run state with
  | mk outcome after => cases outcome <;> rfl

theorem bind_assoc (first : Exec σ ε α) (next : α → Exec σ ε β) (last : β → Exec σ ε γ) :
    first >>= next >>= last = first >>= fun value => next value >>= last := by
  apply eq_of_run
  intro state
  simp only [run_bind]
  cases ran : first.run state with
  | mk outcome after => cases outcome <;> rfl

theorem returns_map_iff {read : α → β} {body : Exec σ ε α} {state : σ} {value : β} :
    (read <$> body).Returns state value ↔ ∃ inner, body.Returns state inner ∧ read inner = value := by
  simp only [Returns, run_map]
  cases body.run state with
  | mk outcome after => cases outcome <;> simp

theorem returns_mapError {body : Exec σ ε α} {read : ε → δ} {state : σ} {value : α} :
    (mapError read body).Returns state value ↔ body.Returns state value := by
  rw [Returns, Returns, run_mapError]
  cases (body.run state).1 with
  | error reason => exact iff_of_false nofun nofun
  | ok inner =>
      change (Except.ok inner : Except δ α) = .ok value ↔ _
      rw [Except.ok.injEq, Except.ok.injEq]

/-- Inversion of sequencing: a composite that returned ran both parts to
their ends. -/
theorem bind_returned {first : Exec σ ε α} {next : α → Exec σ ε β} {state after : σ} {value : β}
    (ran : (first >>= next).run state = (.ok value, after)) :
    ∃ inner middle, first.run state = (.ok inner, middle) ∧
      (next inner).run middle = (.ok value, after) := by
  rw [run_bind] at ran
  cases step : first.run state with
  | mk outcome middle =>
      rw [step] at ran
      cases outcome with
      | error reason => cases ran
      | ok inner => exact ⟨inner, middle, rfl, ran⟩

theorem returns_iff_run {body : Exec σ ε α} {state : σ} {value : α} :
    body.Returns state value ↔ ∃ after, body.run state = (.ok value, after) := by
  rw [Returns]
  cases body.run state with
  | mk outcome after => simp

/-- `Keeps inv body`: every run of `body` from a state with `inv` ends in one,
also when it raises. -/
def Keeps (inv : σ → Prop) (body : Exec σ ε α) : Prop :=
  ∀ state, inv state → inv (body.final state)

namespace Keeps

variable {inv : σ → Prop}

theorem pure (value : α) : Keeps inv (Pure.pure value : Exec σ ε α) := fun _ held => held

theorem raise (reason : ε) : Keeps inv (Exec.raise reason : Exec σ ε α) := fun _ held => held

theorem gets (read : σ → α) : Keeps inv (Exec.gets read : Exec σ ε α) := fun _ held => held

theorem lift (outcome : Except ε α) : Keeps inv (Exec.lift outcome : Exec σ ε α) :=
  fun _ held => held

theorem after {first : Exec σ ε α} {next : α → Exec σ ε β} {state : σ}
    (head : inv (first.final state)) (tail : ∀ value, Keeps inv (next value)) :
    inv ((first >>= next).final state) := by
  simp only [final, run_bind] at head ⊢
  cases step : first.run state with
  | mk outcome middle =>
      rw [step] at head
      cases outcome with
      | error reason => exact head
      | ok value => exact tail value middle head

theorem bind {first : Exec σ ε α} {next : α → Exec σ ε β}
    (head : Keeps inv first) (tail : ∀ value, Keeps inv (next value)) :
    Keeps inv (first >>= next) := fun state held => after (head state held) tail

theorem map {read : α → β} {body : Exec σ ε α} (kept : Keeps inv body) : Keeps inv (read <$> body) :=
  kept.bind fun value => .pure (read value)

theorem handle {body : Exec σ ε α} {handler : ε → Exec σ ε α}
    (attempt : Keeps inv body) (recovery : ∀ reason, Keeps inv (handler reason)) :
    Keeps inv (Exec.handle body handler) := by
  intro state held
  have kept := attempt state held
  simp only [final, run_handle] at kept ⊢
  cases step : body.run state with
  | mk outcome middle =>
      rw [step] at kept
      cases outcome with
      | error reason => exact recovery reason middle kept
      | ok value => exact kept

theorem ite {condition : Prop} [Decidable condition] {left right : Exec σ ε α}
    (onTrue : Keeps inv left) (onFalse : Keeps inv right) :
    Keeps inv (if condition then left else right) := by
  split
  · exact onTrue
  · exact onFalse

theorem zoom {view : τ → σ} {update : σ → τ → τ} {outer : τ → Prop} {body : Exec σ ε α}
    (keeps : ∀ state, outer state → outer (update (body.final (view state)) state)) :
    Keeps outer (Exec.zoom view update body) := keeps

end Keeps

end Exec

end Foundation
