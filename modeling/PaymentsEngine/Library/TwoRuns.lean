import PaymentsEngine.Library.Machine

/-! # Two runs side by side

Two runs of one machine over the same inputs, from states in a relation.  What one
step says about related states is carried along both runs: that the second machine
gives a good answer wherever the first does, or that the two cannot be told apart.
A machine that may break down is one that never does where an invariant keeps it going.
-/

namespace PaymentsEngine.Library.Machine

variable {State Input Output View : Type*}

section Follows

variable {step : State → Input → Output × State} {good : Output → Prop} {admissible : Input → Prop}
  {Related : State → State → Prop}

/-- From related states, an admissible input with a good answer in the first state has one in the
    second, and leads to related states. -/
def Follows (step : State → Input → Output × State) (good : Output → Prop)
    (admissible : Input → Prop) (Related : State → State → Prop) : Prop :=
  ∀ first second input, Related first second → admissible input → good (step first input).1 →
    good (step second input).1 ∧ Related (step first input).2 (step second input).2

theorem Follows.run (follows : Follows step good admissible Related) {inputs : List Input}
    (allowed : ∀ input ∈ inputs, admissible input) {first second : State}
    (related : Related first second) (goods : ∀ output ∈ outputs step first inputs, good output) :
    (∀ output ∈ outputs step second inputs, good output) ∧
      Related (after step first inputs) (after step second inputs) := by
  induction inputs generalizing first second with
  | nil => exact ⟨by simp, related⟩
  | cons input inputs ih =>
    simp only [outputs_cons, List.forall_mem_cons, after_cons] at allowed goods ⊢
    -- The first run answers well at every input, so the second does, one input after the other.
    obtain ⟨answer, next⟩ := follows first second input related allowed.1 goods.1
    obtain ⟨answers, final⟩ := ih allowed.2 next goods.2
    exact ⟨⟨answer, answers⟩, final⟩

end Follows

section Bisimulation

variable {step : State → Input → Output × State} {view : State → View}
  {Related : State → State → Prop} {first second : State}

/-- Related states look alike, answer alike and go on to related states. -/
structure Bisimulation (step : State → Input → Output × State) (view : State → View)
    (Related : State → State → Prop) : Prop where
  looks : ∀ {first second}, Related first second → view first = view second
  answers : ∀ {first second} input, Related first second → (step first input).1 = (step second input).1
  related : ∀ {first second} input, Related first second →
    Related (step first input).2 (step second input).2

/-- Along every list of inputs the two states give the same answers and look alike. -/
structure Indistinguishable (step : State → Input → Output × State) (view : State → View)
    (first second : State) : Prop where
  answers : ∀ inputs, outputs step first inputs = outputs step second inputs
  views : ∀ inputs, (states step first inputs).map view = (states step second inputs).map view

theorem Bisimulation.indistinguishable (bisimulation : Bisimulation step view Related)
    (related : Related first second) : Indistinguishable step view first second where
  answers := by
    intro inputs
    induction inputs generalizing first second with
    | nil => rfl
    | cons input inputs ih =>
      rw [outputs_cons, outputs_cons, bisimulation.answers input related,
        ih (bisimulation.related input related)]
  views := by
    intro inputs
    induction inputs generalizing first second with
    | nil => rw [states, states, List.map_cons, List.map_cons, bisimulation.looks related]
    | cons input inputs ih =>
      rw [states, states, List.map_cons, List.map_cons, bisimulation.looks related,
        ih (bisimulation.related input related)]

/-- One input that leads to states that look different tells the states apart. -/
theorem Indistinguishable.view_step (same : Indistinguishable step view first second)
    (input : Input) : view (step first input).2 = view (step second input).2 := by
  have looks := same.views [input]
  simp only [states, List.map_cons, List.map_nil, List.cons.injEq, and_true] at looks
  exact looks.2

end Bisimulation

section Failing

variable {attempt : State → Input → Option (Output × State)} {step : State → Input → Output × State}
  {Invariant : State → Prop}

/-- A machine that may break down.  From then on it has no state and gives no answer. -/
def failing (attempt : State → Input → Option (Output × State)) (state : Option State)
    (input : Input) : Option Output × Option State :=
  let stepped := state.bind fun state => attempt state input
  (stepped.map Prod.fst, stepped.map Prod.snd)

/-- Where the invariant holds the machine goes on as `step` does. -/
structure Unfailing (attempt : State → Input → Option (Output × State))
    (step : State → Input → Output × State) (Invariant : State → Prop) : Prop where
  steps : ∀ {state} input, Invariant state → attempt state input = some (step state input)
  keeps : ∀ state input, Invariant state → Invariant (step state input).2

namespace Unfailing

variable (unfailing : Unfailing attempt step Invariant) {state : State}

include unfailing

theorem failing_some (input : Input) (holds : Invariant state) :
    failing attempt (some state) input = (some (step state input).1, some (step state input).2) := by
  rw [failing, Option.bind_some, unfailing.steps input holds]
  rfl

theorem after_some (inputs : List Input) (holds : Invariant state) :
    after (failing attempt) (some state) inputs = some (after step state inputs) := by
  induction inputs generalizing state with
  | nil => rfl
  | cons input inputs ih =>
    rw [after_cons, unfailing.failing_some input holds, ih (unfailing.keeps state input holds),
      after_cons]

theorem outputs_some (inputs : List Input) (holds : Invariant state) :
    outputs (failing attempt) (some state) inputs = (outputs step state inputs).map some := by
  induction inputs generalizing state with
  | nil => rfl
  | cons input inputs ih =>
    rw [outputs_cons, unfailing.failing_some input holds, ih (unfailing.keeps state input holds),
      outputs_cons, List.map_cons]

theorem states_some (inputs : List Input) (holds : Invariant state) :
    states (failing attempt) (some state) inputs = (states step state inputs).map some := by
  induction inputs generalizing state with
  | nil => rfl
  | cons input inputs ih =>
    rw [states, unfailing.failing_some input holds, ih (unfailing.keeps state input holds), states,
      List.map_cons]

/-- What may break down but does not is told apart by the same runs. -/
theorem indistinguishable_iff {view : State → View} {first second : State}
    (holds : Invariant first) (alsoHolds : Invariant second) :
    Indistinguishable (failing attempt) (Option.map view) (some first) (some second) ↔
      Indistinguishable step view first second := by
  have answers (inputs : List Input) :
      outputs (failing attempt) (some first) inputs = outputs (failing attempt) (some second) inputs ↔
        outputs step first inputs = outputs step second inputs := by
    rw [unfailing.outputs_some inputs holds, unfailing.outputs_some inputs alsoHolds]
    exact (List.map_injective_iff.mpr fun _ _ => Option.some.inj).eq_iff
  have views (inputs : List Input) :
      (states (failing attempt) (some first) inputs).map (Option.map view) =
          (states (failing attempt) (some second) inputs).map (Option.map view) ↔
        (states step first inputs).map view = (states step second inputs).map view := by
    have seen : ∀ passed : List State,
        (passed.map some).map (Option.map view) = (passed.map view).map some := by
      intro passed
      rw [List.map_map, List.map_map]
      rfl
    rw [unfailing.states_some inputs holds, unfailing.states_some inputs alsoHolds, seen, seen]
    exact (List.map_injective_iff.mpr fun _ _ => Option.some.inj).eq_iff
  constructor
  · intro same
    exact ⟨fun inputs => (answers inputs).mp (same.answers inputs),
      fun inputs => (views inputs).mp (same.views inputs)⟩
  · intro same
    exact ⟨fun inputs => (answers inputs).mpr (same.answers inputs),
      fun inputs => (views inputs).mpr (same.views inputs)⟩

end Unfailing

end Failing

end PaymentsEngine.Library.Machine
