import PaymentsEngine.Library.Machine

/-! # Views and repeated inputs

A view of the state is all that counts for a machine when states with the same view
answer alike and go on to states with the same view.  An input that leaves the view as
it is can then be taken out of a run.  `withoutRepeats` takes out the inputs that repeat
one the machine accepted before.
-/

namespace PaymentsEngine.Library.Machine

variable {State Input Output View : Type*}

/-- States with the same view answer alike and stay alike. -/
structure Respects (step : State → Input → Output × State) (view : State → View) : Prop where
  answers : ∀ {first second : State} (input : Input), view first = view second →
    (step first input).1 = (step second input).1
  views : ∀ {first second : State} (input : Input), view first = view second →
    view (step first input).2 = view (step second input).2

section View

variable {step : State → Input → Output × State} {view : State → View}

theorem Respects.after (respects : Respects step view) {first second : State}
    (same : view first = view second) (inputs : List Input) :
    view (Machine.after step first inputs) = view (Machine.after step second inputs) := by
  induction inputs generalizing first second with
  | nil => exact same
  | cons input inputs ih => exact ih (respects.views input same)

/-- Inputs that cannot be told apart by their answers and by the view can be exchanged for each
    other all along a run. -/
theorem Respects.exchange (respects : Respects step view) {Alike : Input → Input → Prop}
    (answers : ∀ state input other, Alike input other → (step state input).1 = (step state other).1)
    (views : ∀ state input other, Alike input other →
      view (step state input).2 = view (step state other).2)
    {inputs others : List Input} (alike : List.Forall₂ Alike inputs others) :
    ∀ {first second : State}, view first = view second →
      Machine.outputs step first inputs = Machine.outputs step second others ∧
        view (Machine.after step first inputs) = view (Machine.after step second others) := by
  induction alike with
  | nil => intro first second same; exact ⟨rfl, same⟩
  | @cons input other inputs others exchanged alike ih =>
    intro first second same
    have answer := (respects.answers input same).trans (answers second input other exchanged)
    have next := (respects.views input same).trans (views second input other exchanged)
    obtain ⟨outputs, after⟩ := ih next
    exact ⟨by rw [outputs_cons, outputs_cons, answer, outputs], after⟩

end View

/-! ## The log of a run -/

/-- The inputs with their answers. -/
def log (step : State → Input → Output × State) (state : State) : List Input → List (Input × Output)
  | [] => []
  | input :: inputs => (input, (step state input).1) :: log step (step state input).2 inputs

/-- The entries of a log but those whose input repeats, as `again` says, an input of `done` or of an
    earlier entry with a good answer. -/
def withoutRepeats (good : Output → Bool) (again : Input → Input → Bool) (done : List Input) :
    List (Input × Output) → List (Input × Output)
  | [] => []
  | (input, output) :: entries =>
    let later :=
      withoutRepeats good again (if good output then input :: done else done) entries
    if done.any fun earlier => again earlier input then later else (input, output) :: later

variable (step : State → Input → Output × State)

theorem map_fst_log (state : State) (inputs : List Input) :
    (log step state inputs).map Prod.fst = inputs := by
  induction inputs generalizing state with
  | nil => rfl
  | cons input inputs ih => rw [log, List.map_cons, ih]

theorem map_snd_log (state : State) (inputs : List Input) :
    (log step state inputs).map Prod.snd = outputs step state inputs := by
  induction inputs generalizing state with
  | nil => rfl
  | cons input inputs ih => rw [log, List.map_cons, ih, outputs_cons]

/-- When repeats are refused without a trace, a run without them gives the same answers and ends in
    the same view. -/
theorem run_withoutRepeats {step} {view : State → View} (respects : Respects step view)
    {good : Output → Bool} {again : Input → Input → Bool}
    (Invariant : State → List Input → Prop)
    (keeps : ∀ state done input, Invariant state done →
      Invariant (step state input).2 (if good (step state input).1 then input :: done else done))
    (idle : ∀ state done earlier input, Invariant state done → earlier ∈ done →
      again earlier input = true → view (step state input).2 = view state)
    (inputs : List Input) :
    ∀ (state other : State) (done : List Input), Invariant state done → view state = view other →
      let kept := withoutRepeats good again done (log step state inputs)
      outputs step other (kept.map Prod.fst) = kept.map Prod.snd ∧
        view (after step other (kept.map Prod.fst)) = view (after step state inputs) := by
  induction inputs with
  | nil => intro state other done _ same; exact ⟨rfl, same.symm⟩
  | cons input inputs ih =>
    intro state other done holds same
    have next := keeps state done input holds
    rw [log, withoutRepeats, after_cons]
    dsimp only
    split
    next repeated =>
      -- The input is left out, and what it did to the state is not seen.
      obtain ⟨earlier, member, again⟩ := List.any_eq_true.mp repeated
      have unchanged := idle state done earlier input holds member again
      exact ih _ other _ next (unchanged.trans same)
    next =>
      obtain ⟨answers, views⟩ := ih _ _ _ next (respects.views input same)
      rw [List.map_cons, List.map_cons, outputs_cons, after_cons, ← respects.answers input same, answers]
      exact ⟨rfl, views⟩

end PaymentsEngine.Library.Machine
