import Mathlib.Logic.Relation

/-! # Schedules

A system of several parties, given by the actions that it may take: an action is a
partial function on the states, undefined where it is not enabled.  `Steps` relates
the states between which some interleaving of actions leads; `run` follows one
schedule.  A rank that every action lowers bounds the schedules, and when some action
is always enabled short of a goal, every schedule can be brought there.
-/

namespace PaymentsEngine.Library.Schedule

variable {State Action : Type*} {step : Action → State → Option State} {first second : State}

/-- One action, of whichever party. -/
def Step (step : Action → State → Option State) (first second : State) : Prop :=
  ∃ action, step action first = some second

/-- Any number of actions in any order. -/
def Steps (step : Action → State → Option State) : State → State → Prop :=
  Relation.ReflTransGen (Step step)

/-- Take the actions of a schedule, all of which have to be enabled in their turn. -/
def run (step : Action → State → Option State) : List Action → State → Option State
  | [], state => some state
  | action :: schedule, state => (step action state).bind (run step schedule)

theorem steps_of_run {schedule : List Action} (ran : run step schedule first = some second) :
    Steps step first second := by
  induction schedule generalizing first with
  | nil =>
    cases ran
    exact .refl
  | cons action schedule ih =>
    obtain ⟨next, taken, rest⟩ := Option.bind_eq_some_iff.mp ran
    exact .head ⟨action, taken⟩ (ih rest)

/-- What every action keeps holds wherever the system gets to. -/
theorem Steps.invariant {Invariant : State → Prop}
    (keeps : ∀ action {state next}, step action state = some next → Invariant state → Invariant next)
    (steps : Steps step first second) (holds : Invariant first) : Invariant second := by
  induction steps with
  | refl => exact holds
  | tail _ last ih =>
    obtain ⟨action, taken⟩ := last
    exact keeps action taken ih

theorem run_append (schedule later : List Action) (state : State) :
    run step (schedule ++ later) state = (run step schedule state).bind (run step later) := by
  induction schedule generalizing state with
  | nil => rfl
  | cons action schedule ih =>
    simp only [List.cons_append, run, Option.bind_assoc]
    congr 1
    funext next
    exact ih next

/-- An invariant that may also speak of the actions taken so far. -/
theorem run_invariant (Invariant : List Action → State → Prop)
    (keeps : ∀ done action {state next}, step action state = some next → Invariant done state →
      Invariant (done ++ [action]) next)
    {done schedule : List Action} (ran : run step schedule first = some second)
    (holds : Invariant done first) : Invariant (done ++ schedule) second := by
  induction schedule generalizing done first with
  | nil =>
    cases ran
    simpa using holds
  | cons action schedule ih =>
    obtain ⟨next, taken, rest⟩ := Option.bind_eq_some_iff.mp ran
    simpa using ih rest (keeps done action taken holds)

/-- In a deterministic system a state that nothing leaves lies ahead of every other. -/
theorem reaches_final {relation : State → State → Prop} {state final : State}
    (unique : Relator.RightUnique relation)
    (toState : Relation.ReflTransGen relation first state)
    (toFinal : Relation.ReflTransGen relation first final)
    (stuck : ∀ next, ¬ relation final next) : Relation.ReflTransGen relation state final := by
  obtain ahead | behind := Relation.ReflTransGen.total_of_right_unique unique toState toFinal
  · exact ahead
  · obtain same | ⟨next, taken, _⟩ := Relation.ReflTransGen.cases_head behind
    · rw [same]
    · exact absurd taken (stuck next)

section Observed

variable {Log : Type*}

/-- What somebody notes down who sees every action of a schedule. -/
def observed (step : Action → State → Option State) (observe : Action → State → Log → Log) :
    List Action → State → Log → Log
  | [], _, log => log
  | action :: schedule, state, log =>
    match step action state with
    | none => log
    | some next => observed step observe schedule next (observe action state log)

theorem observed_append {observe : Action → State → Log → Log} {schedule : List Action}
    (ran : run step schedule first = some second) (later : List Action) (log : Log) :
    observed step observe (schedule ++ later) first log =
      observed step observe later second (observed step observe schedule first log) := by
  induction schedule generalizing first log with
  | nil => cases ran; rfl
  | cons action schedule ih =>
    obtain ⟨next, taken, rest⟩ := Option.bind_eq_some_iff.mp ran
    simp only [List.cons_append, observed, taken]
    exact ih rest _

end Observed

section Rank

variable {rank : State → Nat}

/-- As much as the rank at the beginning can a schedule take. -/
theorem length_le_rank
    (lowers : ∀ action {state next}, step action state = some next → rank next < rank state)
    {schedule : List Action} (ran : run step schedule first = some second) :
    schedule.length + rank second ≤ rank first := by
  induction schedule generalizing first with
  | nil =>
    cases ran
    simp
  | cons action schedule ih =>
    obtain ⟨next, taken, rest⟩ := Option.bind_eq_some_iff.mp ran
    have lower := lowers action taken
    have later := ih rest
    simp only [List.length_cons]
    omega

/-- Where an action of some kind is enabled until the goal is reached, actions of that kind lead to
    the goal. -/
theorem exists_run_to_goal {Invariant Goal : State → Prop} {Allowed : Action → Prop}
    (lowers : ∀ action {state next}, step action state = some next → rank next < rank state)
    (keeps : ∀ action {state next}, step action state = some next → Invariant state → Invariant next)
    (progress : ∀ {state}, Invariant state → ¬ Goal state →
      ∃ action next, Allowed action ∧ step action state = some next)
    {state : State} (holds : Invariant state) :
    ∃ schedule last, (∀ action ∈ schedule, Allowed action) ∧
      run step schedule state = some last ∧ Goal last := by
  -- The rank of the state is left for the rest of the schedule.
  induction measure : rank state using Nat.strongRecOn generalizing state with
  | ind bound ih =>
    by_cases goal : Goal state
    · exact ⟨[], state, by simp, rfl, goal⟩
    · obtain ⟨action, next, allowed, taken⟩ := progress holds goal
      obtain ⟨schedule, last, all, ran, reached⟩ :=
        ih (rank next) (measure ▸ lowers action taken) (keeps action taken holds) rfl
      refine ⟨action :: schedule, last, ?_, ?_, reached⟩
      · simpa [allowed] using all
      · simpa [run, taken] using ran

end Rank

end PaymentsEngine.Library.Schedule
