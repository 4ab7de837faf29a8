import GoogleMusic.Foundation.Exec

namespace Foundation

namespace Exec

variable {σ τ ε α β : Type}

/-- From a state with `pre`, a return leaves `post` of its value and a raise leaves `fails`. -/
def Ensures (pre : σ → Prop) (body : Exec σ ε α) (post : α → σ → Prop) (fails : σ → Prop) : Prop :=
  ∀ state, pre state →
    match body.run state with
    | (.ok value, after) => post value after
    | (.error _, after) => fails after

namespace Ensures

variable {pre fails : σ → Prop} {post : α → σ → Prop} {state : σ}

theorem final {inv : σ → Prop} {body : Exec σ ε α} (ensures : Ensures pre body post fails)
    (returned : ∀ value state, post value state → inv state) (raised : ∀ state, fails state → inv state)
    (held : pre state) : inv (body.final state) := by
  have outcome := ensures state held
  rw [Exec.final]
  cases ran : body.run state with
  | mk result after =>
      rw [ran] at outcome
      cases result with
      | ok value => exact returned value after outcome
      | error reason => exact raised after outcome

theorem returned {body : Exec σ ε α} {value : α} (ensures : Ensures pre body post fails)
    (held : pre state) (ended : body.Returns state value) : post value (body.final state) := by
  have outcome := ensures state held
  obtain ⟨after, ran⟩ := returns_iff_run.mp ended
  rw [Exec.final, ran]
  rw [ran] at outcome
  exact outcome

theorem pure {value : α} (holds : ∀ state, pre state → post value state) :
    Ensures pre (Pure.pure value : Exec σ ε α) post fails := holds

theorem raise {reason : ε} (holds : ∀ state, pre state → fails state) :
    Ensures pre (Exec.raise reason : Exec σ ε α) post fails := holds

theorem gets {read : σ → α} (holds : ∀ state, pre state → post (read state) state) :
    Ensures pre (Exec.gets read : Exec σ ε α) post fails := holds

theorem modify {write : σ → σ} {post : Unit → σ → Prop}
    (holds : ∀ state, pre state → post () (write state)) :
    Ensures pre (Exec.modify write : Exec σ ε Unit) post fails := holds

theorem lift {outcome : Except ε α}
    (onReturn : ∀ value, outcome = .ok value → ∀ state, pre state → post value state)
    (onRaise : ∀ state, pre state → fails state) :
    Ensures pre (Exec.lift outcome) post fails := by
  intro state held
  cases outcome with
  | ok value => exact onReturn value rfl state held
  | error reason => exact onRaise state held

theorem bind {first : Exec σ ε α} {next : α → Exec σ ε β} {middle : α → σ → Prop}
    {post : β → σ → Prop} (head : Ensures pre first middle fails)
    (tail : ∀ value, Ensures (middle value) (next value) post fails) :
    Ensures pre (first >>= next) post fails := by
  intro state held
  have reached := head state held
  rw [run_bind]
  cases ran : first.run state with
  | mk outcome after =>
      rw [ran] at reached
      cases outcome with
      | ok value => exact tail value after reached
      | error reason => exact reached

theorem getsBind {read : σ → α} {next : α → Exec σ ε β} {post : β → σ → Prop}
    (tail : ∀ value, Ensures (fun state => pre state ∧ value = read state) (next value) post fails) :
    Ensures pre (Exec.gets read >>= next) post fails :=
  fun state held => tail (read state) state ⟨held, rfl⟩

theorem map {body : Exec σ ε α} {read : α → β} {post : β → σ → Prop}
    (ensures : Ensures pre body (fun value => post (read value)) fails) :
    Ensures pre (read <$> body) post fails :=
  ensures.bind fun _ => pure fun _ held => held

theorem handle {body : Exec σ ε α} {handler : ε → Exec σ ε α} {caught : σ → Prop}
    (attempt : Ensures pre body post caught)
    (recovery : ∀ reason, Ensures caught (handler reason) post fails) :
    Ensures pre (Exec.handle body handler) post fails := by
  intro state held
  have reached := attempt state held
  rw [run_handle]
  cases ran : body.run state with
  | mk outcome after =>
      rw [ran] at reached
      cases outcome with
      | ok value => exact reached
      | error reason => exact recovery reason after reached

theorem ite {condition : Prop} [Decidable condition] {left right : Exec σ ε α}
    (onTrue : condition → Ensures pre left post fails)
    (onFalse : ¬ condition → Ensures pre right post fails) :
    Ensures pre (if condition then left else right) post fails := by
  split
  · exact onTrue ‹_›
  · exact onFalse ‹_›

theorem when {condition : Bool} {body : Exec σ ε Unit} {post : Unit → σ → Prop}
    (onTrue : Ensures pre body post fails) (onFalse : ∀ state, pre state → post () state) :
    Ensures pre (Exec.when condition body) post fails := by
  cases condition with
  | true => exact onTrue
  | false => exact onFalse

/-- The inner computation is run on a view of the state, whatever lies around it. -/
theorem zoom {view : τ → σ} {update : σ → τ → τ} {body : Exec σ ε α} {outer failed : τ → Prop}
    {post : α → τ → Prop}
    (inner : ∀ state, outer state → Ensures (fun viewed => viewed = view state) body
      (fun value after => post value (update after state)) (fun after => failed (update after state))) :
    Ensures outer (Exec.zoom view update body) post failed := by
  intro state held
  have outcome := inner state held (view state) rfl
  rw [run_zoom]
  cases ran : body.run (view state) with
  | mk result after =>
      rw [ran] at outcome
      cases result with
      | ok value => exact outcome
      | error reason => exact outcome

/-- The rule of consequence. -/
theorem imp {body : Exec σ ε α} {stronger : σ → Prop} {weaker : α → σ → Prop}
    (ensures : Ensures pre body post fails) (before : ∀ state, stronger state → pre state)
    (after : ∀ value state, post value state → weaker value state) :
    Ensures stronger body weaker fails := by
  intro state held
  have outcome := ensures state (before state held)
  cases ran : body.run state with
  | mk result ending =>
      rw [ran] at outcome
      cases result with
      | ok value => exact after value ending outcome
      | error reason => exact outcome

theorem onRaise {body : Exec σ ε α} {weaker : σ → Prop} (ensures : Ensures pre body post fails)
    (raised : ∀ state, fails state → weaker state) : Ensures pre body post weaker := by
  intro state held
  have outcome := ensures state held
  cases ran : body.run state with
  | mk result ending =>
      rw [ran] at outcome
      cases result with
      | ok value => exact outcome
      | error reason => exact raised ending outcome

end Ensures

end Exec

end Foundation
