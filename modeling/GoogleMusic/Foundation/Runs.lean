import Mathlib.Tactic.TypeStar

/-! # Runs of a labelled system

A system answers a label with its next state, or with `none` where the label
is not enabled.  A claim about every run quantifies over the label list; a claim
about every state of a run is `Always`, and a condition that every taken step
must meet is `Admits`.
-/

namespace Foundation

structure System (State Label : Type) where
  step : Label → State → Option State

namespace System

variable {State Label : Type} {system : System State Label}
variable {inv good : State → Prop} {condition : Label → State → Prop}
variable {label : Label} {labels later : List Label} {state next after : State}

def run (system : System State Label) : List Label → State → Option State
  | [], state => some state
  | label :: labels, state => (system.step label state).bind (system.run labels)

/-- What the steps that a run takes put out, one by one. -/
def outputs {Output : Type} (system : System State Label) (output : Label → State → Output) :
    List Label → State → List Output
  | [], _ => []
  | label :: labels, state =>
      (system.step label state).elim [] fun next =>
        output label state :: system.outputs output labels next

/-- `good` holds in every state the run visits, the first and the last included. -/
def Always (system : System State Label) (good : State → Prop) : List Label → State → Prop
  | [], state => good state
  | label :: labels, state =>
      good state ∧ ∀ next, system.step label state = some next → system.Always good labels next

/-- Every step the run takes meets `condition` in the state it is taken from. -/
def Admits (system : System State Label) (condition : Label → State → Prop) :
    List Label → State → Prop
  | [], _ => True
  | label :: labels, state =>
      ∀ next, system.step label state = some next →
        condition label state ∧ system.Admits condition labels next

theorem run_cons_inv (ran : system.run (label :: labels) state = some after) :
    ∃ next, system.step label state = some next ∧ system.run labels next = some after :=
  Option.bind_eq_some_iff.mp ran

theorem run_append (ran : system.run labels state = some next)
    (rest : system.run later next = some after) : system.run (labels ++ later) state = some after := by
  induction labels generalizing state with
  | nil => cases ran; exact rest
  | cons label labels ih =>
      obtain ⟨middle, step, tail⟩ := run_cons_inv ran
      exact Option.bind_eq_some_iff.mpr ⟨middle, step, ih tail⟩

theorem Admits.step (taken : system.step label state = some next) (met : condition label state)
    (rest : system.Admits condition labels next) : system.Admits condition (label :: labels) state := by
  intro other step
  obtain rfl := Option.some.inj (taken.symm.trans step)
  exact ⟨met, rest⟩

theorem Admits.taken (earlier : List Label)
    (admits : system.Admits condition (earlier ++ label :: later) state)
    (ran : system.run earlier state = some after) (step : system.step label after = some next) :
    condition label after := by
  induction earlier generalizing state with
  | nil =>
      cases ran
      exact (admits next step).1
  | cons first earlier ih =>
      obtain ⟨middle, taken, rest⟩ := run_cons_inv ran
      exact ih (admits middle taken).2 rest

theorem Always.head (always : system.Always good labels state) : good state := by
  cases labels with
  | nil => exact always
  | cons label labels => exact always.1

theorem Always.last (always : system.Always good labels state)
    (ran : system.run labels state = some after) : good after := by
  induction labels generalizing state with
  | nil => cases ran; exact always
  | cons label labels ih =>
      obtain ⟨next, step, rest⟩ := run_cons_inv ran
      exact ih (always.2 next step) rest

/-- The invariant rule: a property of the start that every admitted step keeps
holds throughout every admitted run. -/
theorem always_of_keeps
    (keeps : ∀ {label state next}, inv state → system.step label state = some next →
      condition label state → inv next)
    (held : inv state) (admitted : system.Admits condition labels state) :
    system.Always inv labels state := by
  induction labels generalizing state with
  | nil => exact held
  | cons label labels ih =>
      refine ⟨held, fun next step => ?_⟩
      obtain ⟨met, rest⟩ := admitted next step
      exact ih (keeps held step met) rest

/-- What the invariant and the condition of a step imply of it holds of every step of an
admitted run. -/
theorem admits_of_keeps (inv : State → Prop) {shown : Label → State → Prop}
    (keeps : ∀ {label state next}, inv state → system.step label state = some next →
      condition label state → inv next)
    (shows : ∀ {label state}, inv state → condition label state → shown label state)
    (held : inv state) (admitted : system.Admits condition labels state) :
    system.Admits shown labels state := by
  induction labels generalizing state with
  | nil => exact True.intro
  | cons label labels ih =>
      intro next step
      obtain ⟨met, rest⟩ := admitted next step
      exact ⟨shows held met, ih (keeps held step met) rest⟩

theorem Always.imp (implies : ∀ state, inv state → good state)
    (always : system.Always inv labels state) : system.Always good labels state := by
  induction labels generalizing state with
  | nil => exact implies state always
  | cons label labels ih =>
      exact ⟨implies state always.1, fun next step => ih (always.2 next step)⟩

/-- A condition that holds in the good states is met by every step of a run through them. -/
theorem Always.admits (always : system.Always good labels state)
    (met : ∀ label state, good state → condition label state) :
    system.Admits condition labels state := by
  induction labels generalizing state with
  | nil => exact True.intro
  | cons label labels ih =>
      exact fun next step => ⟨met label state always.1, ih (always.2 next step)⟩

theorem admits_of_forall (met : ∀ label state, condition label state) :
    system.Admits condition labels state := by
  induction labels generalizing state with
  | nil => exact True.intro
  | cons label labels ih => exact fun next _ => ⟨met label state, ih⟩

theorem visited_of_held {held : State → State → Prop} {past : State}
    (keeps : ∀ {past label state next}, held past state → system.step label state = some next →
      held past next ∨ held state next)
    (known : held past state) (ran : system.run labels state = some after) :
    held past after ∨ ∃ earlier visited, earlier <+: labels ∧
      system.run earlier state = some visited ∧ held visited after := by
  induction labels generalizing past state with
  | nil => cases ran; exact Or.inl known
  | cons label labels ih =>
      obtain ⟨next, step, rest⟩ := run_cons_inv ran
      have later : ∀ {earlier visited}, earlier <+: labels →
          system.run earlier next = some visited → held visited after →
          ∃ earlier visited, earlier <+: label :: labels ∧
            system.run earlier state = some visited ∧ held visited after :=
        fun {earlier visited} inside came held =>
          ⟨label :: earlier, visited, (List.prefix_cons_inj label).mpr inside,
            Option.bind_eq_some_iff.mpr ⟨next, step, came⟩, held⟩
      rcases keeps known step with old | new
      · rcases ih old rest with still | ⟨earlier, visited, inside, came, held⟩
        · exact Or.inl still
        · exact Or.inr (later inside came held)
      · rcases ih new rest with still | ⟨earlier, visited, inside, came, held⟩
        · exact Or.inr ⟨[], state, List.nil_prefix, rfl, still⟩
        · exact Or.inr (later inside came held)

/-- Where each step keeps what ties its state to an earlier one, or ties the next state to
its own, the last state of a run is tied to one that the run has come through. -/
theorem exists_visited {held : State → State → Prop}
    (keeps : ∀ {past label state next}, held past state → system.step label state = some next →
      held past next ∨ held state next)
    (known : held state state) (ran : system.run labels state = some after) :
    ∃ earlier visited, earlier <+: labels ∧ system.run earlier state = some visited ∧
      held visited after := by
  rcases visited_of_held keeps known ran with still | found
  · exact ⟨[], state, List.nil_prefix, rfl, still⟩
  · exact found

theorem run_keeps
    (keeps : ∀ {label state next}, inv state → system.step label state = some next → inv next)
    (held : inv state) (ran : system.run labels state = some after) : inv after :=
  have admitted : system.Admits (fun _ _ => True) labels state :=
    admits_of_forall fun _ _ => True.intro
  (always_of_keeps (fun held step _ => keeps held step) held admitted).last ran

/-- When an admitted step keeps an invariant that implies `good`, and any other
step ends outside `good`, the runs that stay good are exactly the admitted ones. -/
theorem always_iff_admits (inv : State → Prop)
    (implies : ∀ state, inv state → good state)
    (keeps : ∀ {label state next}, inv state → system.step label state = some next →
      condition label state → inv next)
    (breaks : ∀ {label state next}, inv state → system.step label state = some next →
      ¬ condition label state → ¬ good next)
    (held : inv state) :
    system.Always good labels state ↔ system.Admits condition labels state := by
  constructor
  · intro always
    induction labels generalizing state with
    | nil => exact True.intro
    | cons label labels ih =>
        intro next step
        have met : condition label state := Classical.byContradiction fun unmet =>
          breaks held step unmet (always.2 next step).head
        exact ⟨met, ih (keeps held step met) (always.2 next step)⟩
  · exact fun admitted => (always_of_keeps keeps held admitted).imp implies

end System

end Foundation
