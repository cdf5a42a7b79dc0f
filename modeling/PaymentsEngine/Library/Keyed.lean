import PaymentsEngine.Library.FiniteMap
import PaymentsEngine.Library.Machine

/-! # Families of machines

One machine for each key, created when an input first names the key.  The family
stores the machines in a finite map and hands every input to the machine its key
names.  Each machine then runs on its own subsequence of the inputs, whatever the
others read in between.
-/

namespace PaymentsEngine.Library.Keyed

open PaymentsEngine.Library PaymentsEngine.Library.Machine

variable {Key State Input Output : Type*} [DecidableEq Key]
variable (key : Input → Key) (new : Key → State) (machine : State → Input → Output × State)

/-- The state stored under `name`, or a new machine. -/
def stateAt (family : FiniteMap Key State) (name : Key) : State :=
  (family.lookup name).getD (new name)

/-- Hand `input` to the machine its key names. -/
def step (family : FiniteMap Key State) (input : Input) : Output × FiniteMap Key State :=
  let answered := machine (stateAt new family (key input)) input
  (answered.1, family.insert (key input) answered.2)

/-- The inputs that name `name`. -/
def project (name : Key) (inputs : List Input) : List Input :=
  inputs.filter fun input => key input = name

@[simp] theorem project_cons (name : Key) (input : Input) (inputs : List Input) :
    project key name (input :: inputs) =
      if key input = name then input :: project key name inputs else project key name inputs := by
  simp [project, List.filter_cons]

theorem stateAt_step (family : FiniteMap Key State) (input : Input) (name : Key) :
    stateAt new (step key new machine family input).2 name =
      if key input = name then (machine (stateAt new family name) input).2
      else stateAt new family name := by
  simp only [stateAt, step, lookup_insert_eq]
  by_cases named : key input = name
  · subst named; simp
  · simp [named, Ne.symm named]

theorem mem_step (family : FiniteMap Key State) (input : Input) (name : Key) :
    name ∈ (step key new machine family input).2 ↔ name = key input ∨ name ∈ family :=
  Finmap.mem_insert

/-- Every machine is where its own inputs lead it. -/
theorem stateAt_after (family : FiniteMap Key State) (inputs : List Input) (name : Key) :
    stateAt new (after (step key new machine) family inputs) name =
      after machine (stateAt new family name) (project key name inputs) := by
  induction inputs generalizing family with
  | nil => rfl
  | cons input inputs ih =>
    rw [after_cons, ih, stateAt_step, project_cons]
    split <;> rfl

/-- The family gains exactly the keys that its inputs name. -/
theorem mem_after (family : FiniteMap Key State) (inputs : List Input) (name : Key) :
    name ∈ after (step key new machine) family inputs ↔
      name ∈ family ∨ ∃ input ∈ inputs, key input = name := by
  induction inputs generalizing family with
  | nil => simp
  | cons input inputs ih =>
    rw [after_cons, ih, mem_step]
    simp only [List.mem_cons, exists_eq_or_imp, eq_comm (a := name)]
    tauto

theorem lookup_eq_stateAt (family : FiniteMap Key State) (name : Key) :
    family.lookup name = if name ∈ family then some (stateAt new family name) else none := by
  cases found : family.lookup name with
  | none => rw [if_neg (Finmap.lookup_eq_none.mp found)]
  | some state => rw [if_pos (Finmap.mem_of_lookup_eq_some found), stateAt, found]; rfl

/-- What a family that starts empty holds after a run. -/
theorem lookup_after_empty (inputs : List Input) (name : Key) :
    (after (step key new machine) ∅ inputs).lookup name =
      if ∃ input ∈ inputs, key input = name then
        some (after machine (new name) (project key name inputs))
      else none := by
  rw [lookup_eq_stateAt new]
  simp only [mem_after, stateAt_after, Finmap.notMem_empty, false_or]
  rfl

/-- The answers that name a key are those of its machine alone. -/
theorem outputs_project (outputKey : Output → Key)
    (named : ∀ state input, outputKey (machine state input).1 = key input)
    (family : FiniteMap Key State) (inputs : List Input) (name : Key) :
    (outputs (step key new machine) family inputs).filter (fun output => outputKey output = name) =
      outputs machine (stateAt new family name) (project key name inputs) := by
  induction inputs generalizing family with
  | nil => rfl
  | cons input inputs ih =>
    have answers : outputKey (step key new machine family input).1 = key input := named _ _
    rw [outputs_cons, List.filter_cons, answers, project_cons, ih, stateAt_step]
    by_cases same : key input = name
    · subst same
      simp only [decide_true, if_true, outputs_cons]
      rfl
    · simp only [same, decide_false, Bool.false_eq_true, if_false]

/-- The accepted inputs of one key are those that its machine alone accepts. -/
theorem accepted_project (good : Output → Bool) (family : FiniteMap Key State) (inputs : List Input)
    (name : Key) :
    project key name (accepted (step key new machine) good family inputs) =
      accepted machine good (stateAt new family name) (project key name inputs) := by
  induction inputs generalizing family with
  | nil => rfl
  | cons input inputs ih =>
    have rest := ih (step key new machine family input).2
    rw [stateAt_step] at rest
    rw [accepted, project_cons]
    by_cases same : key input = name
    · subst same
      rw [if_pos rfl] at rest
      rw [if_pos rfl, accepted, ← rest]
      change (project key (key input) (if good (machine _ input).1 then _ else _)) = _
      split
      · rw [project_cons, if_pos rfl]
      · rfl
    · rw [if_neg same] at rest
      rw [if_neg same, ← rest]
      split
      · rw [project_cons, if_neg same]
      · rfl

/-- Two orders of the inputs that agree on every key lead to the same family. -/
theorem after_eq_of_project_eq (family : FiniteMap Key State) {first second : List Input}
    (agree : ∀ name, project key name first = project key name second) :
    after (step key new machine) family first = after (step key new machine) family second := by
  have named : ∀ name, (∃ input ∈ first, key input = name) ↔ ∃ input ∈ second, key input = name := by
    intro name
    have nonempty : ∀ inputs : List Input,
        (∃ input ∈ inputs, key input = name) ↔ project key name inputs ≠ [] := by
      intro inputs
      simp [project]
    rw [nonempty, nonempty, agree]
  apply Finmap.ext_lookup
  intro name
  rw [lookup_eq_stateAt new, lookup_eq_stateAt new]
  simp only [mem_after, stateAt_after, agree, named]

/-! ## Putting a family together -/

/-- What several keys name one after the other, one of them names in its turn. -/
theorem project_flatMap {inputsOf : Key → List Input}
    (own : ∀ name, ∀ input ∈ inputsOf name, key input = name) {names : List Key}
    (nodup : names.Nodup) (name : Key) :
    project key name (names.flatMap inputsOf) = if name ∈ names then inputsOf name else [] := by
  induction names with
  | nil => rfl
  | cons first names ih =>
    obtain ⟨fresh, nodup⟩ := List.nodup_cons.mp nodup
    have rest := ih nodup
    rw [project] at rest
    rw [List.flatMap_cons, project, List.filter_append, rest]
    by_cases same : name = first
    · subst same
      have all : (inputsOf name).filter (fun input => key input = name) = inputsOf name := by
        simpa using own name
      simp [all, fresh]
    · have none : (inputsOf first).filter (fun input => key input = name) = [] := by
        rw [List.filter_eq_nil_iff]
        intro input member
        simpa [own first input member] using Ne.symm same
      simp [none, same]

/-- A family is reached when each of its machines is, by some inputs of its own. -/
theorem exists_family {View : Type*} {view : State → View} {family : FiniteMap Key State}
    (reached : ∀ name state, family.lookup name = some state →
      ∃ inputs, inputs ≠ [] ∧ (∀ input ∈ inputs, key input = name) ∧
        view (after machine (new name) inputs) = view state) :
    ∃ inputs, ∀ name, ((after (step key new machine) ∅ inputs).lookup name).map view =
      (family.lookup name).map view := by
  have exists_own : ∀ name, ∃ inputs : List Input, (∀ input ∈ inputs, key input = name) ∧
      (inputs ≠ [] ↔ name ∈ family) ∧ ∀ state, family.lookup name = some state →
        view (after machine (new name) inputs) = view state := by
    intro name
    cases found : family.lookup name with
    | none => exact ⟨[], by simp, by simp [Finmap.lookup_eq_none.mp found], by simp⟩
    | some state =>
      obtain ⟨inputs, nonempty, own, same⟩ := reached name state found
      refine ⟨inputs, own, by simp [nonempty, Finmap.mem_of_lookup_eq_some found], ?_⟩
      intro other lookedUp
      cases lookedUp
      exact same
  choose inputsOf own nonempty same using exists_own
  refine ⟨family.keys.toList.flatMap inputsOf, fun name => ?_⟩
  have projected := project_flatMap key own family.keys.nodup_toList name
  have named : (∃ input ∈ family.keys.toList.flatMap inputsOf, key input = name) ↔ name ∈ family := by
    rw [← nonempty name]
    constructor
    · rintro ⟨input, member, rfl⟩
      obtain ⟨other, _, origin⟩ := List.mem_flatMap.mp member
      rw [own other input origin]
      exact List.ne_nil_of_mem origin
    · intro some
      obtain ⟨input, member⟩ := List.exists_mem_of_ne_nil _ some
      refine ⟨input, List.mem_flatMap.mpr ⟨name, ?_, member⟩, own name input member⟩
      exact Finset.mem_toList.mpr (Finmap.mem_keys.mpr ((nonempty name).mp some))
  rw [lookup_after_empty, projected]
  simp only [named, Finset.mem_toList, Finmap.mem_keys]
  cases found : family.lookup name with
  | none => simp [Finmap.lookup_eq_none.mp found]
  | some state => simp [Finmap.mem_of_lookup_eq_some found, same name state found]

end PaymentsEngine.Library.Keyed
