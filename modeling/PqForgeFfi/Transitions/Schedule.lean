import Mathlib.Data.List.Basic

namespace Transitions

/-!
# Schedules of a transition system

A schedule is a list of actions that are taken one after the other, each one
where the step function allows it.  An invariant that every allowed step keeps
holds wherever a schedule of allowed steps leads.
-/

variable {State Action : Type}

/-- Where a schedule leads, if every one of its steps is possible. -/
def run
    (step : State → Action → Option State) :
    State → List Action → Option State
  | state, [] =>
      some state
  | state, action :: rest =>
      step state action >>= fun next => run step next rest

/-- Every step of a schedule is allowed in the state it is taken in. -/
def Along
    (step : State → Action → Option State)
    (allowed : State → Action → Prop) :
    State → List Action → Prop
  | _, [] =>
      True
  | state, action :: rest =>
      allowed state action ∧
        ∀ next ∈ step state action, Along step allowed next rest

instance decidableAlong
    (step : State → Action → Option State)
    (allowed : State → Action → Prop)
    [∀ state action, Decidable (allowed state action)] :
    ∀ state actions, Decidable (Along step allowed state actions)
  | _, [] =>
      inferInstanceAs (Decidable True)
  | state, action :: rest =>
      have : ∀ next, Decidable (Along step allowed next rest) :=
        fun next => decidableAlong step allowed next rest
      inferInstanceAs
        (Decidable (allowed state action ∧ ∀ next ∈ step state action,
          Along step allowed next rest))

section Runs

variable {step : State → Action → Option State}
variable {allowed : State → Action → Prop}
variable {holds : State → Prop}

/-- A schedule that is not empty leads through the state behind its first step. -/
theorem run_cons
    {state final : State}
    {action : Action}
    {rest : List Action}
    (reached : run step state (action :: rest) = some final) :
    ∃ next, step state action = some next ∧
      run step next rest = some final :=
  Option.bind_eq_some_iff.mp reached

/-- A schedule goes on from where its first step leads. -/
theorem run_of_step
    {state next : State}
    {action : Action}
    (stepped : step state action = some next)
    (rest : List Action) :
    run step state (action :: rest) = run step next rest := by
  rw [run, stepped]
  rfl

/-- What every allowed step keeps holds wherever allowed steps lead. -/
theorem run_invariant
    (keeps :
      ∀ state action next,
        holds state →
        allowed state action →
        step state action = some next →
        holds next)
    {state final : State}
    {actions : List Action}
    (start : holds state)
    (along : Along step allowed state actions)
    (reached : run step state actions = some final) :
    holds final := by
  induction actions generalizing state with
  | nil =>
      cases reached
      exact start
  | cons action rest inductionHypothesis =>
      obtain ⟨next, stepped, reached⟩ := run_cons reached
      obtain ⟨isAllowed, along⟩ := along
      exact inductionHypothesis
        (keeps state action next start isAllowed stepped)
        (along next stepped) reached

/-- A schedule leads through the state behind its front. -/
theorem run_append
    {state final : State}
    {earlier later : List Action}
    (reached : run step state (earlier ++ later) = some final) :
    ∃ middle, run step state earlier = some middle ∧
      run step middle later = some final := by
  induction earlier generalizing state with
  | nil =>
      exact ⟨state, rfl, reached⟩
  | cons action rest inductionHypothesis =>
      obtain ⟨next, stepped, reached⟩ := run_cons reached
      obtain ⟨middle, front, back⟩ := inductionHypothesis reached
      exact ⟨middle, (run_of_step stepped rest).trans front, back⟩

/-- Behind a front of a schedule of allowed steps the rest is one as well. -/
theorem Along.append
    {state middle : State}
    {earlier later : List Action}
    (along : Along step allowed state (earlier ++ later))
    (reached : run step state earlier = some middle) :
    Along step allowed middle later := by
  induction earlier generalizing state with
  | nil =>
      cases reached
      exact along
  | cons action rest inductionHypothesis =>
      obtain ⟨next, stepped, reached⟩ := run_cons reached
      exact inductionHypothesis (along.2 next stepped) reached

/-- A schedule of steps that nothing is asked of. -/
theorem along_of_forall
    (allows : ∀ state action, allowed state action)
    (state : State)
    (actions : List Action) :
    Along step allowed state actions := by
  induction actions generalizing state with
  | nil =>
      trivial
  | cons action rest inductionHypothesis =>
      exact
        ⟨allows state action, fun next _ => inductionHypothesis next⟩

/--
Every step of a possible schedule is allowed, if that follows from what the
steps before it keep of the schedule so far.
-/
theorem along_of_history
    {recorded : List Action → State → Prop}
    {whole : List Action}
    (keeps :
      ∀ earlier state action next,
        recorded earlier state →
        step state action = some next →
        recorded (earlier ++ [action]) next)
    (allows :
      ∀ earlier action later state next,
        whole = earlier ++ action :: later →
        recorded earlier state →
        step state action = some next →
        allowed state action)
    {earlier rest : List Action}
    {state final : State}
    (split : whole = earlier ++ rest)
    (start : recorded earlier state)
    (reached : run step state rest = some final) :
    Along step allowed state rest := by
  induction rest generalizing earlier state with
  | nil =>
      trivial
  | cons action rest inductionHypothesis =>
      obtain ⟨next, stepped, reached⟩ := run_cons reached
      refine ⟨allows earlier action rest state next split start stepped, ?_⟩
      intro other isNext
      obtain rfl : other = next :=
        Option.some.inj (isNext.symm.trans stepped)
      refine inductionHypothesis ?_
        (keeps earlier state action other start stepped) reached
      rw [split, List.append_assoc]
      rfl

end Runs

end Transitions
