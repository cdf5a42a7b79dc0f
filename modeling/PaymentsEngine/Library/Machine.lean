import Mathlib.Data.List.Chain
import Mathlib.Data.List.Basic

/-! # Machines that answer

A machine reads one input at a time, answers it and moves to a new state.  This
module has the runs of such a machine (`after`, `outputs`, `states`), the rule that
carries an invariant along a run, and refinement up to stuttering: an abstraction
under which every step of the machine is a step of a transition relation or
changes nothing.
-/

namespace PaymentsEngine.Library.Machine

variable {State Input Output Abstract : Type*}

/-! ## Runs -/

/-- The state after reading `inputs`. -/
def after (step : State → Input → Output × State) (state : State) : List Input → State
  | [] => state
  | input :: inputs => after step (step state input).2 inputs

/-- The answers to `inputs`, one each. -/
def outputs (step : State → Input → Output × State) (state : State) : List Input → List Output
  | [] => []
  | input :: inputs => (step state input).1 :: outputs step (step state input).2 inputs

/-- The states passed through, the first and the last included. -/
def states (step : State → Input → Output × State) (state : State) : List Input → List State
  | [] => [state]
  | input :: inputs => state :: states step (step state input).2 inputs

/-- The inputs whose answer is good. -/
def accepted (step : State → Input → Output × State) (good : Output → Bool) (state : State) :
    List Input → List Input
  | [] => []
  | input :: inputs =>
    if good (step state input).1 then input :: accepted step good (step state input).2 inputs
    else accepted step good (step state input).2 inputs

variable (step : State → Input → Output × State)

@[simp] theorem after_nil (state : State) : after step state [] = state := rfl

@[simp] theorem after_cons (state : State) (input : Input) (inputs : List Input) :
    after step state (input :: inputs) = after step (step state input).2 inputs := rfl

@[simp] theorem outputs_nil (state : State) : outputs step state [] = [] := rfl

@[simp] theorem outputs_cons (state : State) (input : Input) (inputs : List Input) :
    outputs step state (input :: inputs) =
      (step state input).1 :: outputs step (step state input).2 inputs := rfl

theorem after_append (state : State) (first second : List Input) :
    after step state (first ++ second) = after step (after step state first) second := by
  induction first generalizing state with
  | nil => rfl
  | cons input inputs ih => simp only [List.cons_append, after_cons, ih]

theorem after_concat (state : State) (inputs : List Input) (input : Input) :
    after step state (inputs ++ [input]) = (step (after step state inputs) input).2 := by
  rw [after_append, after_cons, after_nil]

theorem outputs_append (state : State) (first second : List Input) :
    outputs step state (first ++ second) =
      outputs step state first ++ outputs step (after step state first) second := by
  induction first generalizing state with
  | nil => rfl
  | cons input inputs ih => simp only [List.cons_append, outputs_cons, after_cons, ih]

@[simp] theorem outputs_length (state : State) (inputs : List Input) :
    (outputs step state inputs).length = inputs.length := by
  induction inputs generalizing state with
  | nil => rfl
  | cons input inputs ih => simp only [outputs_cons, List.length_cons, ih]

theorem accepted_append (good : Output → Bool) (state : State) (first second : List Input) :
    accepted step good state (first ++ second) =
      accepted step good state first ++ accepted step good (after step state first) second := by
  induction first generalizing state with
  | nil => rfl
  | cons input inputs ih =>
    simp only [List.cons_append, accepted, after_cons, ih]
    split <;> rfl

theorem accepted_sublist (good : Output → Bool) (state : State) (inputs : List Input) :
    (accepted step good state inputs).Sublist inputs := by
  induction inputs generalizing state with
  | nil => exact .slnil
  | cons input inputs ih =>
    rw [accepted]
    split
    · exact (ih _).cons_cons input
    · exact (ih _).cons input

theorem states_eq_cons (state : State) (inputs : List Input) :
    ∃ rest, states step state inputs = state :: rest := by
  cases inputs with
  | nil => exact ⟨[], rfl⟩
  | cons input inputs => exact ⟨_, rfl⟩

/-! ## Invariants -/

/-- What every step keeps holds after every run. -/
theorem after_invariant {Invariant : State → Prop}
    (keeps : ∀ state input, Invariant state → Invariant (step state input).2)
    {state : State} (holds : Invariant state) (inputs : List Input) :
    Invariant (after step state inputs) := by
  induction inputs generalizing state with
  | nil => exact holds
  | cons input inputs ih => exact ih (keeps state input holds)

/-- An invariant of the state together with the inputs accepted so far. -/
theorem accepted_invariant {good : Output → Bool} {Invariant : State → List Input → Prop}
    (keeps : ∀ state done input, Invariant state done →
      Invariant (step state input).2 (done ++ if good (step state input).1 then [input] else []))
    {state : State} (holds : Invariant state []) (inputs : List Input) :
    Invariant (after step state inputs) (accepted step good state inputs) := by
  -- The induction has to start from any state and any inputs accepted before.
  suffices general : ∀ (inputs : List Input) (state : State) (done : List Input),
      Invariant state done →
        Invariant (after step state inputs) (done ++ accepted step good state inputs) by
    simpa using general inputs state [] holds
  intro inputs
  induction inputs with
  | nil => intro state done holds; simpa [accepted] using holds
  | cons input inputs ih =>
    intro state done holds
    have next := ih _ _ (keeps state done input holds)
    rw [accepted, after_cons]
    split
    next good => simpa [good] using next
    next bad => simpa [bad] using next

/-! ## Refinement up to stuttering -/

/-- A run of a transition relation in which a state may also be repeated. -/
def StutteringRun (initial : Abstract) (next : Abstract → Abstract → Prop)
    (trace : List Abstract) : Prop :=
  trace.head? = some initial ∧ trace.IsChain fun before after => after = before ∨ next before after

/-- If along every run the abstraction of a step is a step of `next` or nothing, the abstraction
    of the run is a stuttering run of `next`. -/
theorem stutteringRun_states {abstraction : State → Abstract} {next : Abstract → Abstract → Prop}
    (Invariant : State → Prop)
    (keeps : ∀ state input, Invariant state → Invariant (step state input).2)
    (refines : ∀ state input, Invariant state →
      abstraction (step state input).2 = abstraction state ∨
        next (abstraction state) (abstraction (step state input).2))
    {state : State} (holds : Invariant state) (inputs : List Input) :
    StutteringRun (abstraction state) next ((states step state inputs).map abstraction) := by
  induction inputs generalizing state with
  | nil => exact ⟨rfl, .singleton _⟩
  | cons input inputs ih =>
    obtain ⟨starts, chained⟩ := ih (keeps state input holds)
    refine ⟨rfl, ?_⟩
    rw [states, List.map_cons, List.isChain_cons]
    refine ⟨?_, chained⟩
    intro following member
    rw [starts] at member
    cases member
    exact refines state input holds

/-! ## Exact abstractions -/

/-- When the good answers are exactly the steps of `next`, the chains of `next` are exactly the
    abstractions of the runs with good answers only. -/
theorem isChain_iff_states {abstraction : State → Abstract} {next : Abstract → Abstract → Prop}
    {good : Output → Bool}
    (forth : ∀ state input, good (step state input).1 = true →
      next (abstraction state) (abstraction (step state input).2))
    (back : ∀ state {following}, next (abstraction state) following →
      ∃ input, good (step state input).1 = true ∧ abstraction (step state input).2 = following)
    (state : State) (rest : List Abstract) :
    (abstraction state :: rest).IsChain next ↔
      ∃ inputs, (∀ output ∈ outputs step state inputs, good output = true) ∧
        (states step state inputs).map abstraction = abstraction state :: rest := by
  induction rest generalizing state with
  | nil =>
    constructor
    · intro _
      exact ⟨[], by simp, rfl⟩
    · intro _
      exact .singleton _
  | cons following rest ih =>
    constructor
    · intro chain
      obtain ⟨first, later⟩ := List.isChain_cons_cons.mp chain
      obtain ⟨input, accepted, rfl⟩ := back state first
      obtain ⟨inputs, all, passed⟩ := (ih _).mp later
      refine ⟨input :: inputs, ?_, ?_⟩
      · simpa [accepted] using all
      · simp [states, passed]
    · rintro ⟨inputs, all, passed⟩
      cases inputs with
      | nil => simp [states] at passed
      | cons input inputs =>
        simp only [outputs_cons, List.forall_mem_cons] at all
        simp only [states, List.map_cons, List.cons.injEq, true_and] at passed
        obtain ⟨others, starts⟩ := states_eq_cons step (step state input).2 inputs
        have head : abstraction (step state input).2 = following := by
          rw [starts, List.map_cons, List.cons.injEq] at passed
          exact passed.1
        subst head
        refine List.isChain_cons_cons.mpr ⟨forth state input all.1, ?_⟩
        exact (ih _).mpr ⟨inputs, all.2, passed⟩

/-! ## Exact reachable states -/

/-- Where every valid target but the first comes from a valid one of lower rank, every valid target
    is reached. -/
theorem exists_after_of_predecessors {Target : Type*} {view : State → Target} {Valid : Target → Prop}
    {rank : Target → Nat} {Allowed : Input → Prop} {initial : State}
    (comesFrom : ∀ target, Valid target → target = view initial ∨
      ∃ earlier, Valid earlier ∧ rank earlier < rank target ∧
        ∀ inputs, (∀ input ∈ inputs, Allowed input) → view (after step initial inputs) = earlier →
          ∃ input, Allowed input ∧ view (step (after step initial inputs) input).2 = target)
    {target : Target} (valid : Valid target) :
    ∃ inputs, (∀ input ∈ inputs, Allowed input) ∧ view (after step initial inputs) = target := by
  induction measure : rank target using Nat.strongRecOn generalizing target with
  | ind bound ih =>
    obtain rfl | ⟨earlier, earlierValid, lower, step⟩ := comesFrom target valid
    · exact ⟨[], by simp, rfl⟩
    · obtain ⟨inputs, allowed, reached⟩ := ih (rank earlier) (measure ▸ lower) earlierValid rfl
      obtain ⟨input, last, follows⟩ := step inputs allowed reached
      refine ⟨inputs ++ [input], ?_, ?_⟩
      · simpa [or_imp, forall_and] using And.intro allowed last
      · rw [after_concat, follows]

end PaymentsEngine.Library.Machine
