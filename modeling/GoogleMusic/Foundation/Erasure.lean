import GoogleMusic.Foundation.Exec
import GoogleMusic.Foundation.Runs

namespace Foundation

namespace Exec

variable {σ τ ς υ ε α β : Type}

/-- The body does to a state what `plain` does to the state without the part that `erase`
forgets, and with the same outcome. -/
def Erases (erase : σ → τ) (body : Exec σ ε α) (plain : Exec τ ε α) : Prop :=
  ∀ state, plain.run (erase state) = ((body.run state).1, erase (body.run state).2)

namespace Erases

variable {erase : σ → τ} {body : Exec σ ε α} {plain : Exec τ ε α}

theorem final (erases : Erases erase body plain) (state : σ) :
    plain.final (erase state) = erase (body.final state) := congrArg Prod.snd (erases state)

theorem pure (value : α) : Erases erase (Pure.pure value : Exec σ ε α) (Pure.pure value) := fun _ => rfl

theorem raise (reason : ε) : Erases erase (Exec.raise reason : Exec σ ε α) (Exec.raise reason) :=
  fun _ => rfl

theorem lift (outcome : Except ε α) : Erases erase (Exec.lift outcome) (Exec.lift outcome) := fun _ => rfl

theorem gets {read : σ → α} {view : τ → α} (same : ∀ state, view (erase state) = read state) :
    Erases erase (Exec.gets read : Exec σ ε α) (Exec.gets view) :=
  fun state => congrArg (fun value => (Except.ok value, erase state)) (same state)

theorem modify {write : σ → σ} {update : τ → τ}
    (same : ∀ state, update (erase state) = erase (write state)) :
    Erases erase (Exec.modify write : Exec σ ε Unit) (Exec.modify update) :=
  fun state => congrArg (Prod.mk (Except.ok ())) (same state)

theorem bind {next : α → Exec σ ε β} {plainNext : α → Exec τ ε β} (head : Erases erase body plain)
    (tail : ∀ value, Erases erase (next value) (plainNext value)) :
    Erases erase (body >>= next) (plain >>= plainNext) := by
  intro state
  rw [run_bind, run_bind, head state]
  cases body.run state with
  | mk outcome after =>
      cases outcome with
      | ok value => exact tail value after
      | error reason => rfl

theorem map {read : α → β} (erases : Erases erase body plain) :
    Erases erase (read <$> body) (read <$> plain) := erases.bind fun _ => pure _

theorem handle {handler : ε → Exec σ ε α} {plainHandler : ε → Exec τ ε α}
    (attempt : Erases erase body plain)
    (recovery : ∀ reason, Erases erase (handler reason) (plainHandler reason)) :
    Erases erase (Exec.handle body handler) (Exec.handle plain plainHandler) := by
  intro state
  rw [run_handle, run_handle, attempt state]
  cases body.run state with
  | mk outcome after =>
      cases outcome with
      | ok value => rfl
      | error reason => exact recovery reason after

theorem ite {condition : Prop} [Decidable condition] {left right : Exec σ ε α}
    {plainLeft plainRight : Exec τ ε α} (onTrue : Erases erase left plainLeft)
    (onFalse : Erases erase right plainRight) :
    Erases erase (if condition then left else right) (if condition then plainLeft else plainRight) := by
  split
  · exact onTrue
  · exact onFalse

theorem when {condition : Bool} {body : Exec σ ε Unit} {plain : Exec τ ε Unit}
    (erases : Erases erase body plain) :
    Erases erase (Exec.when condition body) (Exec.when condition plain) := by
  cases condition with
  | true => exact erases
  | false => exact pure ()

/-- Forgetting in the inner state is forgetting in the outer one. -/
theorem zoom {outer : ς → υ} {view : ς → σ} {update : σ → ς → ς} {plainView : υ → τ}
    {plainUpdate : τ → υ → υ} (erases : Erases erase body plain)
    (views : ∀ state, plainView (outer state) = erase (view state))
    (updates : ∀ inner state, plainUpdate (erase inner) (outer state) = outer (update inner state)) :
    Erases outer (Exec.zoom view update body) (Exec.zoom plainView plainUpdate plain) := by
  intro state
  rw [run_zoom, run_zoom, views, erases, updates]

end Erases

end Exec

namespace System

variable {State Plain Label : Type} {system : System State Label} {plain : System Plain Label}

/-- When each step forgets to a step, a run forgets to the run. -/
theorem run_map {erase : State → Plain}
    (steps : ∀ label state, plain.step label (erase state) = (system.step label state).map erase)
    (labels : List Label) (state : State) :
    plain.run labels (erase state) = (system.run labels state).map erase := by
  induction labels generalizing state with
  | nil => rfl
  | cons label labels ih =>
      rw [run, run, steps]
      cases system.step label state with
      | none => rfl
      | some next => exact ih next

end System

end Foundation
