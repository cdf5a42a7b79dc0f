import PaymentsEngine.Pipeline.Snapshot

/-! # A file that can be read can be processed

When every row of the file is read, the pipeline has a run that writes the snapshot:
first the loader goes to its end, then the service takes message after message.  So the
safety of the snapshot is not that of a pipeline that is stuck.
-/

namespace PaymentsEngine

open PaymentsEngine.Library PaymentsEngine.Library.Schedule

namespace Pipeline

variable {heap : PendingHeap} {config : ServiceConfig} {build : Build} {s : State heap}

/-! ## The loader alone -/

/-- An operation of the loader is a step of the pipeline as long as the service listens. -/
theorem advance_loader (listening : s.listening = true) {loader following : LoadFile}
    {new channel queued : List ServiceMessage}
    (advanced : loader.advance build true = some (following, new)) (posts : queued = channel ++ new) :
    Step (State.step config build) { s with loader := loader, channel := channel }
      { s with loader := following, channel := queued } := by
  refine ⟨.advance .loader, ?_⟩
  have listens : ({ s with loader := loader, channel := channel } : State heap).listening = true :=
    listening
  simp [State.step, State.advance, listens, advanced, posts]

/-- The loader puts the rows that are still to come from the file on the channel up to one that it
    cannot read, and after the last one the signal. -/
theorem loader_finishes (listening : s.listening = true) (reader : CsvReader) :
    ∀ channel : List ServiceMessage,
      Steps (State.step config build) { s with loader := .reading reader, channel := channel }
        { s with
          loader := .ended (loadFile build reader).2
          channel := channel ++ posted build reader } := by
  -- The cases are those of reading one record: a row, the end, an error, a panic.
  induction reader using loadFile.induct build with
  | case1 reader msg rest next ih =>
    intro channel
    have more : loadFile build reader =
        (msg :: (loadFile build rest).1, (loadFile build rest).2) := by rw [loadFile, next]
    have first : posted build reader = incoming msg :: posted build rest := by simp [posted, more]
    have reads : (LoadFile.reading reader).advance build true = some (.sending msg rest, []) := by
      simp [LoadFile.advance, next]
    rw [more, first, List.append_cons channel (incoming msg) (posted build rest)]
    exact .head (advance_loader listening reads (List.append_nil channel).symm)
      (.head (advance_loader listening rfl rfl) (ih (channel ++ [incoming msg])))
  | case2 reader rest next =>
    intro channel
    have done : loadFile build reader = ([], .ok ()) := by rw [loadFile, next]
    have reads : (LoadFile.reading reader).advance build true = some (.completing, []) := by
      simp [LoadFile.advance, next]
    rw [posted, done]
    exact .head (advance_loader listening reads (List.append_nil channel).symm)
      (.single (advance_loader listening rfl rfl))
  | case3 reader error rest next =>
    intro channel
    have failed : loadFile build reader = ([], .err error) := by rw [loadFile, next]
    have reads : (LoadFile.reading reader).advance build true = some (.ended (.err error), []) := by
      simp [LoadFile.advance, next]
    rw [posted, failed]
    exact .single (advance_loader listening reads rfl)
  | case4 reader rest next =>
    intro channel
    have failed : loadFile build reader = ([], .panic) := by rw [loadFile, next]
    have reads : (LoadFile.reading reader).advance build true = some (.ended .panic, []) := by
      simp [LoadFile.advance, next]
    rw [posted, failed]
    exact .single (advance_loader listening reads rfl)

/-! ## The service alone -/

theorem advance_server {left : World × Server heap}
    (advanced : s.server.advance s.receivers s.world = some left) :
    State.step config build (.advance .server) s =
      some ({ s with world := left.1 }.withServer left.2) := by
  rw [State.step, State.advance]
  split
  next receiving => rw [receiving] at advanced; cases advanced
  next => rw [advanced]; rfl

/-- The pipeline goes where the operations of the service alone lead. -/
theorem steps_of_advances (running : s.server.outcome = none) {left : World × Server heap}
    (advances : Relation.ReflTransGen (Server.Advances s.receivers) (s.world, s.server) left) :
    Steps (State.step config build) s ({ s with world := left.1 }.withServer left.2) := by
  induction advances with
  | refl =>
    have same : ({ s with world := s.world } : State heap).withServer s.server = s := by
      simp [State.withServer, running]
    rw [same]
    exact .refl
  | @tail middle last _ advanced ih =>
    apply Relation.ReflTransGen.tail ih
    have running := Server.running_of_advance advanced
    have goesOn : State.step config build (.advance .server)
        ({ s with world := middle.1 }.withServer middle.2) = _ := advance_server advanced
    refine ⟨.advance .server, goesOn.trans ?_⟩
    simp [State.withServer, running]

theorem receive_running {buffer : heap.Carrier} {msg : ServiceMessage} :
    (Server.receive config buffer msg).outcome = none := by
  cases msg with
  | incoming message callback => rw [Server.receive]; split <;> rfl
  | transactionBatchCompletion callback => rfl

variable (config build)

/-- The service takes a message from the channel and is done with it. -/
theorem service_takes {buffer : heap.Carrier} {msg : ServiceMessage} {channel : List ServiceMessage}
    (receivers : s.receivers = .allOpen) (receiving : s.server = .receiving buffer)
    (queued : s.channel = msg :: channel) :
    ∃ next left,
      Steps (State.step config build) s { s with
        server := .receiving left, channel := channel, received := s.received ++ [msg], world := next } ∧
      ∀ callback, msg = .transactionBatchCompletion callback → .completed callback ∈ next.sent := by
  obtain ⟨⟨next, left⟩, iterated, opened⟩ :=
    Service.iteration_allOpen config s.world buffer msg
  have acknowledges : ∀ callback, msg = .transactionBatchCompletion callback →
      .completed callback ∈ next.sent := by
    intro callback signal
    subst signal
    cases opened
    simp
  refine ⟨next, left, ?_, acknowledges⟩
  -- Receiving is one step, and the operations on the message are the steps after it.
  let taken : State heap := { s with
    server := .receive config buffer msg, channel := channel, received := s.received ++ [msg] }
  have receives : State.step config build (.advance .server) s = some taken := by
    simp [State.step, State.advance, receiving, queued, taken]
  have iterates : Relation.ReflTransGen (Server.Advances taken.receivers) (taken.world, taken.server)
      (next, .receiving left) := by
    have allOpen : taken.receivers = .allOpen := receivers
    have iterates := @Server.iteration_advances heap .allOpen config s.world buffer msg
    rw [iterated] at iterates
    rw [allOpen]
    exact iterates
  have running : taken.server.outcome = none := receive_running
  apply Relation.ReflTransGen.head ⟨.advance .server, receives⟩
  exact steps_of_advances running iterates

/-- The service gets through what is on the channel and acknowledges the signal at its end. -/
theorem service_acknowledges (rows : List ServiceMessage) :
    ∀ (s : State heap) (buffer : heap.Carrier), s.receivers = .allOpen →
      s.server = .receiving buffer → s.channel = rows ++ [completion] →
      ∃ t, Steps (State.step config build) s t ∧ t.main = s.main ∧
        .completed completionChannel ∈ t.world.sent := by
  induction rows with
  | nil =>
    intro s buffer receivers receiving queued
    obtain ⟨next, left, steps, acknowledges⟩ :=
      service_takes config build receivers receiving queued
    exact ⟨_, steps, rfl, acknowledges completionChannel rfl⟩
  | cons msg rows ih =>
    intro s buffer receivers receiving queued
    obtain ⟨next, left, steps, _⟩ :=
      service_takes config build receivers receiving queued
    obtain ⟨t, later, main, acknowledged⟩ := ih { s with
      server := .receiving left, channel := rows ++ [completion],
      received := s.received ++ [msg], world := next } left receivers rfl rfl
    exact ⟨t, steps.trans later, main, acknowledged⟩

/-! ## Both -/

theorem initial_receivers (heap : PendingHeap) (file : List Record) :
    (State.initial heap file).receivers = .allOpen := by
  simp [State.receivers, State.initial, Receivers.fixed, Receivers.allOpen, Handler.outcome,
    Main.isRunning]

/-- The pipeline can come to write the snapshot exactly when the whole file can be read. -/
theorem canWrite_iff (heap : PendingHeap) (config : ServiceConfig) (build : Build)
    (file : List Record) :
    (∃ s, Steps (State.step config build) (.initial heap file) s ∧ s.main = .writingSnapshot) ↔
      ∃ messages, CsvReader.readAll build 0 file = some messages := by
  constructor
  · rintro ⟨s, steps, writing⟩
    obtain working | complete := reachable_cases steps
    · exact absurd writing working.noSnapshot
    · obtain ⟨messages, read, _⟩ := complete.applied
      exact ⟨messages, read⟩
  · rintro ⟨messages, read⟩
    -- One schedule is enough: the loader first, then the service, then the signal.
    have opens : State.step config build (.advance .loader) (.initial heap file) =
        some { State.initial heap file with loader := .reading (.new file), channel := [] } := rfl
    let loaded : State heap := { State.initial heap file with
      loader := .ended (loadFile build (.new file)).2
      channel := [] ++ posted build (.new file) }
    have loads : Steps (State.step config build) (.initial heap file) loaded := by
      apply Relation.ReflTransGen.head ⟨.advance .loader, opens⟩
      exact loader_finishes rfl (.new file) []
    have rows := CsvReader.readAll_loadFile.mp read
    have channel : loaded.channel = messages.map incoming ++ [completion] := by
      simp [loaded, posted, rows]
    have receivers : loaded.receivers = .allOpen := initial_receivers heap file
    obtain ⟨t, serves, main, acknowledged⟩ :=
      service_acknowledges config build (messages.map incoming) loaded heap.new receivers rfl channel
    have signals : State.step config build .signal t = some { t with main := .writingSnapshot } := by
      have waiting : t.main = .waiting [.server, .loader, .handler] := main
      have acknowledged : t.acknowledged = true := List.contains_iff_mem.mpr acknowledged
      simp [State.step, waiting, acknowledged]
    exact ⟨{ t with main := .writingSnapshot },
      (loads.trans serves).tail ⟨.signal, signals⟩, rfl⟩

end Pipeline

end PaymentsEngine
