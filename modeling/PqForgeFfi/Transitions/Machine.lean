import Mathlib.Data.List.Basic

namespace Transitions

/-!
# Machines that answer

A machine takes one input after the other and answers each of them.  A
specification says which answers are allowed from an abstract state and where
they lead.  A machine whose steps follow a specification follows it in all runs.
-/

variable {State Input Output Abstract : Type}

/-- The answers of a machine to a list of inputs, and the state behind them. -/
def answers
    (step : State → Input → Output × State) :
    State →
      List Input →
      List Output × State
  | state, [] =>
      ([], state)
  | state, input :: rest =>
      let (output, next) := step state input
      let (outputs, final) := answers step next rest
      (output :: outputs, final)

/-- A specification allows these answers to these inputs. -/
inductive Allows
    (spec : Abstract → Input → Output → Abstract → Prop) :
    Abstract →
      List Input →
      List Output →
      Abstract →
      Prop where
  | nil {state : Abstract} :
      Allows spec state [] [] state
  | cons
      {state next final : Abstract}
      {input : Input}
      {inputs : List Input}
      {output : Output}
      {outputs : List Output}
      (first : spec state input output next)
      (rest : Allows spec next inputs outputs final) :
      Allows spec state (input :: inputs) (output :: outputs) final

section Answers

variable {step : State → Input → Output × State}

@[simp] theorem answers_nil (state : State) :
    answers step state [] = ([], state) :=
  rfl

@[simp] theorem answers_cons
    (state : State)
    (input : Input)
    (rest : List Input) :
    answers step state (input :: rest) =
      ((step state input).1 ::
          (answers step (step state input).2 rest).1,
        (answers step (step state input).2 rest).2) :=
  rfl

/-- A machine goes on from where its first inputs have led it. -/
theorem answers_append
    (state : State)
    (earlier later : List Input) :
    answers step state (earlier ++ later) =
      ((answers step state earlier).1 ++
          (answers step (answers step state earlier).2 later).1,
        (answers step (answers step state earlier).2 later).2) := by
  induction earlier generalizing state with
  | nil =>
      simp
  | cons input rest inductionHypothesis =>
      simp [inductionHypothesis]

/-- Every input is answered. -/
theorem length_answers
    (state : State)
    (inputs : List Input) :
    (answers step state inputs).1.length = inputs.length := by
  induction inputs generalizing state with
  | nil =>
      rfl
  | cons input rest inductionHypothesis =>
      simp [inductionHypothesis]

end Answers

section Specifications

variable {step : State → Input → Output × State}
variable {spec : Abstract → Input → Output → Abstract → Prop}
variable {related : State → Abstract → Prop}
variable {allowed : Input → Prop}

/--
A machine follows a specification in every run, if each of its steps follows it
and leads to related states.
-/
theorem answers_allowed
    (follows :
      ∀ state abstract input,
        related state abstract →
        allowed input →
        ∃ next,
          spec abstract input (step state input).1 next ∧
            related (step state input).2 next)
    {state : State}
    {abstract : Abstract}
    (start : related state abstract)
    {inputs : List Input}
    (all : ∀ input ∈ inputs, allowed input) :
    ∃ final,
      Allows spec abstract inputs (answers step state inputs).1 final ∧
        related (answers step state inputs).2 final := by
  induction inputs generalizing state abstract with
  | nil =>
      exact ⟨abstract, .nil, start⟩
  | cons input rest inductionHypothesis =>
      obtain ⟨next, first, reached⟩ :=
        follows state abstract input start (all input List.mem_cons_self)
      obtain ⟨final, later, ends⟩ :=
        inductionHypothesis reached fun other member =>
          all other (List.mem_cons_of_mem input member)
      exact ⟨final, .cons first later, ends⟩

/-- What every allowed step keeps holds behind an allowed run. -/
theorem Allows.invariant
    {holds : Abstract → Prop}
    {state final : Abstract}
    {inputs : List Input}
    {outputs : List Output}
    (run : Allows spec state inputs outputs final)
    (keeps :
      ∀ before input output behind,
        input ∈ inputs →
        holds before →
        spec before input output behind →
        holds behind)
    (start : holds state) :
    holds final := by
  induction run with
  | nil =>
      exact start
  | cons first rest inductionHypothesis =>
      apply inductionHypothesis
      · intro before input output behind member
        exact keeps before input output behind
          (List.mem_cons_of_mem _ member)
      · exact keeps _ _ _ _ List.mem_cons_self start first

end Specifications

section Measures

variable {relation : State → State → Prop}
variable {holds : State → Prop}
variable {measure : State → Nat}

/--
A run whose steps keep an invariant and lower a measure has no more steps than
the measure has been lowered by.
-/
theorem isChain_lowers_measure
    (lowers :
      ∀ here next,
        holds here →
        relation here next →
        holds next ∧ measure next < measure here)
    {first last : State}
    {rest : List State}
    (chain : (first :: rest).IsChain relation)
    (start : holds first)
    (isLast : (first :: rest).getLast? = some last) :
    holds last ∧ rest.length + measure last ≤ measure first := by
  induction rest generalizing first with
  | nil =>
      cases isLast
      exact ⟨start, Nat.le_of_eq (Nat.zero_add _)⟩
  | cons next rest inductionHypothesis =>
      obtain ⟨step, later⟩ := List.isChain_cons_cons.mp chain
      obtain ⟨kept, lower⟩ := lowers first next start step
      rw [List.getLast?_cons_cons] at isLast
      obtain ⟨ends, bounded⟩ := inductionHypothesis later kept isLast
      refine ⟨ends, ?_⟩
      rw [List.length_cons]
      omega

end Measures

end Transitions
