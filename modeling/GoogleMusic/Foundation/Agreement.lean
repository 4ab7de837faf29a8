import GoogleMusic.Foundation.Exec
import GoogleMusic.Foundation.Runs

namespace Foundation

namespace Exec

variable {σ τ ε α β : Type}

/-- From a state with `inv` the two do the same, and they leave `inv` behind. -/
def Agree (inv : σ → Prop) (first second : Exec σ ε α) : Prop :=
  ∀ state, inv state → first.run state = second.run state ∧ inv (second.final state)

namespace Agree

variable {inv : σ → Prop} {first second : Exec σ ε α}

theorem of_keeps (keeps : Keeps inv first) : Agree inv first first :=
  fun state held => ⟨rfl, keeps state held⟩

theorem keeps (agree : Agree inv first second) : Keeps inv second :=
  fun state held => (agree state held).2

theorem bind {next other : α → Exec σ ε β} (head : Agree inv first second)
    (tail : ∀ value, Agree inv (next value) (other value)) :
    Agree inv (first >>= next) (second >>= other) := by
  intro state held
  obtain ⟨same, kept⟩ := head state held
  rw [final] at kept ⊢
  rw [run_bind, run_bind, same]
  cases ran : second.run state with
  | mk outcome middle =>
      rw [ran] at kept
      cases outcome with
      | error reason => exact ⟨rfl, kept⟩
      | ok value => exact tail value middle kept

theorem map {read : α → β} (agree : Agree inv first second) :
    Agree inv (read <$> first) (read <$> second) := agree.bind fun value => of_keeps (.pure (read value))

theorem zoom {view : τ → σ} {update : σ → τ → τ} {outer : τ → Prop} (agree : Agree inv first second)
    (shows : ∀ state, outer state → inv (view state))
    (writes : ∀ inner state, inv inner → outer state → outer (update inner state)) :
    Agree outer (Exec.zoom view update first) (Exec.zoom view update second) := by
  intro state held
  obtain ⟨same, kept⟩ := agree (view state) (shows state held)
  rw [run_zoom, run_zoom, same]
  exact ⟨rfl, writes _ state kept held⟩

end Agree

end Exec

namespace System

variable {State Label : Type} {system other : System State Label} {inv : State → Prop}
variable {condition : Label → State → Prop} {labels : List Label} {state : State}

/-- Two systems that step alike where an invariant holds that one of them keeps. -/
theorem run_agree (agree : ∀ label state, inv state → other.step label state = system.step label state)
    (keeps : ∀ {label state next}, inv state → system.step label state = some next →
      condition label state → inv next)
    (held : inv state) (admitted : system.Admits condition labels state) :
    other.run labels state = system.run labels state := by
  induction labels generalizing state with
  | nil => rfl
  | cons label labels ih =>
      rw [run, run, agree label state held]
      cases step : system.step label state with
      | none => rfl
      | some next =>
          obtain ⟨met, rest⟩ := admitted next step
          exact ih (keeps held step met) rest

/-- If they also put out the same there, so do their runs. -/
theorem outputs_agree {Output : Type} {output shown : Label → State → Output}
    (agree : ∀ label state, inv state → other.step label state = system.step label state)
    (alike : ∀ label state, inv state → shown label state = output label state)
    (keeps : ∀ {label state next}, inv state → system.step label state = some next →
      condition label state → inv next)
    (held : inv state) (admitted : system.Admits condition labels state) :
    other.outputs shown labels state = system.outputs output labels state := by
  induction labels generalizing state with
  | nil => rfl
  | cons label labels ih =>
      rw [outputs, outputs, agree label state held, alike label state held]
      cases step : system.step label state with
      | none => rfl
      | some next =>
          obtain ⟨met, rest⟩ := admitted next step
          rw [Option.elim_some, Option.elim_some, ih (keeps held step met) rest]

end System

end Foundation
