import PaymentsEngine.Pipeline.Undisturbed

/-! # What the result of `main` says

`main` also returns when all its tasks have ended, without a snapshot and without an
error.  That takes a failure of the service or of the handler: without one, `main`
returns what writing the snapshot returned, or the error of the signal that was
dropped, and that only for a file that could not be loaded.
-/

namespace PaymentsEngine.Pipeline

open PaymentsEngine.Library PaymentsEngine.Library.Schedule PaymentsEngine.Library.Machine

variable {heap : PendingHeap} {config : ServiceConfig} {build : Build} {file : List Record}
variable {s t : State heap}

/-- The actions so far and how far the loader and `main` are. -/
structure Exits (build : Build) (file : List Record) (done : List Action) (s : State heap) : Prop where
  loads : (∀ failure, .fail .loader failure ∉ done) →
    s.loader.Loads build file (s.received ++ s.channel)
  writes : ∀ result, .writeSnapshot result ∈ done → Complete build file s
  returns : ∀ result, s.main = .returned result → .writeSnapshot result ∈ done ∨
    result = .error "channel closed" ∧ ∃ failure, s.loader = .ended failure ∧ failure ≠ .ok ()

theorem exits_initial : Exits build file [] (State.initial heap file) where
  loads := fun _ => ⟨rfl, rfl⟩
  writes := by intro result member; cases member
  returns := by intro result returned; cases returned

namespace State

/-- What the loader posts is added to what was received and is on the channel, and nothing else
    changes that. -/
theorem Undisturbed.goes_loads {action : Action} (undisturbed : s.Undisturbed)
    (goes : s.Goes config build action t) (regular : ∀ failure, action ≠ .fail .loader failure)
    (loads : s.loader.Loads build file (s.received ++ s.channel)) :
    t.loader.Loads build file (t.received ++ t.channel) := by
  cases goes with
  | loads advanced =>
    rw [undisturbed.listening (LoadFile.running_of_advance advanced)] at advanced
    rw [← List.append_assoc]
    exact loads.advance advanced
  | loaderFails failed running => exact absurd rfl (regular _)
  | receives receiving queued =>
    rw [queued] at loads
    rw [List.append_assoc]
    exact loads
  | serves advanced =>
    rw [undisturbed.withServer_eq (undisturbed.serves advanced)]
    exact loads
  | leavesLoop | handles | handlerReturns | joins | isSignalled | signalDropped | writes => exact loads

/-- How `main` may return by an action. -/
theorem Undisturbed.goes_returned {action : Action} {result : AnyResult} (undisturbed : s.Undisturbed)
    (goes : s.Goes config build action t) (returned : t.main = .returned result) :
    s.main = .returned result ∨ action = .writeSnapshot result ∨
      result = .error "channel closed" ∧ ∃ failure, s.loader = .ended failure ∧ failure ≠ .ok () := by
  cases goes with
  | loads | loaderFails | receives | serves | leavesLoop | handles | handlerReturns =>
    exact .inl returned
  | @joins tasks task waiting ended =>
    have other := undisturbed.server_left waiting ended
    simp only [Main.joined, if_neg (List.ne_nil_of_mem other)] at returned
    cases returned
  | isSignalled waiting acknowledged => cases returned
  | signalDropped waiting unacknowledged dropped =>
    cases returned
    obtain ⟨loaded, _, _⟩ := signalSenderHeld_eq_false.mp dropped
    cases stage : s.loader with
    | ended outcome =>
      refine .inr (.inr ⟨rfl, outcome, rfl, ?_⟩)
      rintro rfl
      obtain acknowledged | held := undisturbed.signalled stage
      · rw [unacknowledged] at acknowledged; cases acknowledged
      · rw [dropped] at held; cases held
    | opening | reading | sending | completing => exact absurd (by rw [stage]; rfl) loaded
  | writes writing =>
    cases returned
    exact .inr (.inl rfl)

end State

theorem Exits.goes {done : List Action} {action : Action} (undisturbed : s.Undisturbed)
    (progress : Working build file s ∨ Complete build file s)
    (goes : s.Goes config build action t) (exits : Exits build file done s) :
    Exits build file (done ++ [action]) t where
  loads := by
    intro unfailed
    refine undisturbed.goes_loads goes ?_ (exits.loads ?_)
    · rintro failure rfl
      exact unfailed failure (by simp)
    · intro failure member
      exact unfailed failure (List.mem_append_left _ member)
  writes := by
    intro result member
    obtain before | now := List.mem_append.mp member
    · exact (exits.writes result before).takes goes.takes
    · rw [List.mem_singleton] at now
      subst now
      have taken := goes.takes
      cases goes with
      | writes writing =>
        obtain working | complete := progress
        · exact absurd writing working.noSnapshot
        · exact complete.takes taken
  returns := by
    intro result returned
    obtain before | rfl | ⟨error, failure, ended, failed⟩ := undisturbed.goes_returned goes returned
    · obtain written | ⟨error, failure, ended, failed⟩ := exits.returns result before
      · exact .inl (List.mem_append_left _ written)
      · exact .inr ⟨error, failure, goes.takes.loader_ended ended, failed⟩
    · exact .inl (by simp)
    · exact .inr ⟨error, failure, goes.takes.loader_ended ended, failed⟩

/-- Without failures of the service or the handler this is how far an execution is. -/
theorem exits_of_run {schedule : List Action} (regular : ∀ action ∈ schedule, action.disturbs = false)
    (ran : run (State.step config build) schedule (.initial heap file) = some s) :
    Exits build file schedule s := by
  have kept := undisturbed_run (Exits build file) exits_initial
    (fun _ _ _ _ _ undisturbed progress goes exits => exits.goes undisturbed progress goes) regular ran
  exact kept.2.2

/-- When neither the service nor the handler fails, `main` returns in one of two ways.  Either all
    rows could be read, and it returns what writing the snapshot of the accounts returned that
    they lead to one after the other.  Or no snapshot is written at all, it returns the error of the
    signal, and the file could not be read or the loader has failed. -/
theorem exit_status (heap : PendingHeap) (config : ServiceConfig) (build : Build) (file : List Record)
    (short : file.length ≤ 2 ^ 64) (schedule : List Action)
    (regular : ∀ action ∈ schedule, action.disturbs = false) (s : State heap)
    (ran : run (State.step config build) schedule (.initial heap file) = some s) (result : AnyResult)
    (returned : s.main = .returned result) :
    (.writeSnapshot result ∈ schedule ∧ ∃ messages, CsvReader.readAll build 0 file = some messages ∧
      s.world.accounts = after Accounts.process ∅ messages) ∨
    (result = .error "channel closed" ∧ (∀ other, .writeSnapshot other ∉ schedule) ∧
      (CsvReader.readAll build 0 file = none ∨ ∃ failure, .fail .loader failure ∈ schedule)) := by
  have exits := exits_of_run regular ran
  obtain written | ⟨error, failure, ended, failed⟩ := exits.returns result returned
  · left
    exact ⟨written, (exits.writes result written).sequential short⟩
  · right
    refine ⟨error, ?_, ?_⟩
    · intro other written
      rw [(exits.writes other written).loaded] at ended
      cases ended
      exact failed rfl
    · by_cases unfailed : ∃ failure, .fail .loader failure ∈ schedule
      · exact .inr unfailed
      · left
        have loads := exits.loads (by simpa using unfailed)
        rw [ended] at loads
        cases read : CsvReader.readAll build 0 file with
        | none => rfl
        | some messages =>
          have outcome := loads.2
          rw [CsvReader.readAll_loadFile.mp read] at outcome
          exact absurd outcome failed

/-- The snapshot of one deposit is written to a closed pipe. -/
theorem exit_status_of_deposit :
    ∃ s : State (listHeap PendingTransaction.cmp), s.main = .returned (.error "Broken pipe") ∧
      ((.writeSnapshot (.error "Broken pipe") ∈ depositSchedule ++ [.writeSnapshot (.error "Broken pipe")] ∧
        ∃ messages, CsvReader.readAll .debug 0 depositFile = some messages ∧
          s.world.accounts = after Accounts.process ∅ messages) ∨
      (Except.error "Broken pipe" = (.error "channel closed" : AnyResult) ∧
        (∀ other, .writeSnapshot other ∉ depositSchedule ++ [.writeSnapshot (.error "Broken pipe")]) ∧
        (CsvReader.readAll .debug 0 depositFile = none ∨
          ∃ failure, .fail .loader failure ∈
            depositSchedule ++ [.writeSnapshot (.error "Broken pipe")]))) := by
  have returns : (run (State.step ⟨1⟩ .debug) (depositSchedule ++ [.writeSnapshot (.error "Broken pipe")])
      (.initial (listHeap PendingTransaction.cmp) depositFile)).map State.main =
        some (.returned (.error "Broken pipe")) := by
    decide +kernel
  obtain ⟨s, ran, returned⟩ := Option.map_eq_some_iff.mp returns
  exact ⟨s, returned,
    exit_status _ ⟨1⟩ .debug depositFile (by decide) _ (by decide) s ran _ returned⟩

/-- The service has panicked before it received anything. -/
def State.deserted (heap : PendingHeap) (file : List Record) (loader : LoadFile) : State heap :=
  { State.initial heap file with loader := loader, server := .ended .panic }

/-- A loader that has opened the file comes to its end without a service. -/
theorem deserted_loads (heap : PendingHeap) (config : ServiceConfig) (build : Build)
    (file : List Record) :
    ∃ count outcome, run (State.step config build) (.replicate count (.advance .loader))
        (.deserted heap file (.reading (.new file))) = some (.deserted heap file (.ended outcome)) := by
  cases next : (CsvReader.new file).next build with
  | mk message rest =>
    -- What it sends finds nobody who listens.
    match message with
    | .ok (some msg) =>
      refine ⟨2, .err "channel closed", ?_⟩
      simp [run, State.step, State.advance, LoadFile.advance, next, State.listening, Server.outcome,
        State.deserted, State.initial]
    | .ok none =>
      refine ⟨2, .err "channel closed", ?_⟩
      simp [run, State.step, State.advance, LoadFile.advance, next, State.listening, Server.outcome,
        State.deserted, State.initial]
    | .err error =>
      refine ⟨1, .err error, ?_⟩
      simp [run, State.step, State.advance, LoadFile.advance, next, State.deserted, State.initial]
    | .panic =>
      refine ⟨1, .panic, ?_⟩
      simp [run, State.step, State.advance, LoadFile.advance, next, State.deserted, State.initial]

/-- An execution in which `main` returns without an error and no snapshot was written. -/
structure SilentSuccess (heap : PendingHeap) (config : ServiceConfig) (build : Build)
    (file : List Record) (schedule : List Action) (s : State heap) : Prop where
  ran : run (State.step config build) schedule (.initial heap file) = some s
  returned : s.main = .returned (.ok ())
  unwritten : ∀ result, .writeSnapshot result ∉ schedule

/-- `main` returns without an error and without a snapshot only after a failure of the service or of
    the handler.  One panic of the service is enough for that, whatever the file is: all tasks are
    then joined before the signal. -/
theorem silent_success (heap : PendingHeap) (config : ServiceConfig) (build : Build)
    (file : List Record) :
    (∀ schedule s, SilentSuccess heap config build file schedule s →
      ∃ action ∈ schedule, action.disturbs = true) ∧
    ∃ schedule s, SilentSuccess heap config build file schedule s ∧
      ∀ task failure, .fail task failure ∈ schedule → task = .server ∧ failure = .panic := by
  constructor
  · intro schedule s silent
    by_contra undisturbed
    have regular : ∀ action ∈ schedule, action.disturbs = false := by simpa using undisturbed
    obtain written | ⟨error, _⟩ := (exits_of_run regular silent.ran).returns _ silent.returned
    · exact silent.unwritten _ written
    · cases error
  · obtain ⟨count, outcome, loads⟩ := deserted_loads heap config build file
    have opens : run (State.step config build) [.fail .server .panic, .advance .loader]
        (.initial heap file) = some (.deserted heap file (.reading (.new file))) := rfl
    let joined : State heap := { State.deserted heap file (.ended outcome) with
      handler := .ended (.ok ())
      main := .returned (.ok ()) }
    have joins : run (State.step config build)
        [.join .server, .join .loader, .advance .handler, .join .handler]
        (.deserted heap file (.ended outcome)) = some joined := rfl
    refine ⟨[.fail .server .panic, .advance .loader] ++ .replicate count (.advance .loader) ++
      [.join .server, .join .loader, .advance .handler, .join .handler], joined, ⟨?_, rfl, ?_⟩, ?_⟩
    · rw [run_append, run_append, opens, Option.bind_some, loads, Option.bind_some, joins]
    · simp
    · simp

end PaymentsEngine.Pipeline
