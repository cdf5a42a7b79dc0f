import PaymentsEngine.Pipeline.Tasks

/-! # The loader

What the loader has put on the service channel is always the beginning of what the
file holds, and the completion signal comes last, after all rows of a file that was
read to its end.
-/

namespace PaymentsEngine.Pipeline

open PaymentsEngine.Library

/-- What `load_file` puts on the service channel when the service listens to the end. -/
def posted (build : Build) (reader : CsvReader) : List ServiceMessage :=
  let loaded := loadFile build reader
  loaded.1.map incoming ++ if loaded.2 = .ok () then [completion] else []

/-- The messages that the loader has put on the service channel so far, against the file. -/
def LoadFile.Posted (build : Build) (file : List Record) (posted : List ServiceMessage) :
    LoadFile → Prop
  | .opening records => records = file ∧ posted = []
  | .reading reader => ∃ sent, posted = sent.map incoming ∧
      CsvReader.readAll build 0 file = (reader.remaining build).map fun rest => sent ++ rest
  | .sending msg reader => ∃ sent, posted = sent.map incoming ∧
      CsvReader.readAll build 0 file = (reader.remaining build).map fun rest => sent ++ msg :: rest
  | .completing => ∃ sent, posted = sent.map incoming ∧ CsvReader.readAll build 0 file = some sent
  | .ended (.ok ()) => ∃ sent, posted = sent.map incoming ++ [completion] ∧
      CsvReader.readAll build 0 file = some sent
  | .ended (.err _) | .ended .panic => ∃ sent, posted = List.map incoming sent

variable {build : Build} {file : List Record} {loader following : LoadFile}
variable {posted new : List ServiceMessage}

theorem completion_not_incoming (messages : List InputMessage) :
    completion ∉ messages.map incoming := by
  intro member
  obtain ⟨_, _, same⟩ := List.mem_map.mp member
  cases same

theorem incomingMessages_incoming (messages : List InputMessage) :
    incomingMessages (messages.map incoming) = messages := by
  induction messages with
  | nil => rfl
  | cons msg messages ih => exact congrArg (msg :: ·) ih

theorem incomingMessages_posted (build : Build) (file : List Record) :
    incomingMessages (Pipeline.posted build (.new file)) = (loadFile build (.new file)).1 := by
  rw [Pipeline.posted, incomingMessages_append, incomingMessages_incoming]
  split
  · simp [incomingMessages, pendingOf, completion]
  · simp [incomingMessages, pendingOf]

theorem LoadFile.Posted.failed {failure : Outcome Unit} (posts : loader.Posted build file posted)
    (running : loader.outcome = none) (failed : failure ≠ .ok ()) :
    (LoadFile.ended failure).Posted build file posted := by
  have messages : ∃ sent, posted = List.map incoming sent := by
    cases loader with
    | opening records => exact ⟨[], posts.2⟩
    | reading reader => obtain ⟨sent, all, _⟩ := posts; exact ⟨sent, all⟩
    | sending msg reader => obtain ⟨sent, all, _⟩ := posts; exact ⟨sent, all⟩
    | completing => obtain ⟨sent, all, _⟩ := posts; exact ⟨sent, all⟩
    | ended outcome => cases running
  cases failure with
  | ok => exact absurd rfl failed
  | err error => exact messages
  | panic => exact messages

theorem LoadFile.Posted.advance (posts : loader.Posted build file posted)
    (advanced : loader.advance build true = some (following, new)) :
    following.Posted build file (posted ++ new) := by
  cases loader with
  | opening records =>
    obtain ⟨rfl, rfl⟩ := posts
    cases advanced
    refine ⟨[], rfl, ?_⟩
    simp [CsvReader.remaining, CsvReader.new]
  -- Reading sends nothing yet: the row that was read is the next one to send.
  | reading reader =>
    obtain ⟨sent, rfl, read⟩ := posts
    have remaining := reader.next_remaining build
    rw [LoadFile.advance] at advanced
    generalize reader.next build = outcome at advanced remaining
    obtain ⟨outcome, rest⟩ := outcome
    cases outcome with
    | ok message =>
      cases message with
      | none =>
        cases advanced
        rw [remaining] at read
        exact ⟨sent, by simp, by simpa using read⟩
      | some msg =>
        cases advanced
        rw [remaining, Option.map_map] at read
        exact ⟨sent, by simp, read⟩
    | err error => cases advanced; exact ⟨sent, by simp⟩
    | panic => cases advanced; exact ⟨sent, by simp⟩
  | sending msg reader =>
    obtain ⟨sent, rfl, read⟩ := posts
    cases advanced
    exact ⟨sent ++ [msg], by simp, by simpa using read⟩
  | completing =>
    obtain ⟨sent, rfl, read⟩ := posts
    cases advanced
    exact ⟨sent, rfl, read⟩
  | ended outcome => cases advanced

/-- The completion signal is the last message of a loader that has read the whole file. -/
theorem LoadFile.Posted.completed {received channel : List ServiceMessage}
    (posts : loader.Posted build file (received ++ channel)) (signalled : completion ∈ received) :
    loader = .ended (.ok ()) ∧ channel = [] ∧
      CsvReader.readAll build 0 file = some (incomingMessages received) := by
  have unsignalled {sent : List InputMessage} (all : received ++ channel = sent.map incoming) :
      False := by
    apply completion_not_incoming sent
    rw [← all]
    exact List.mem_append_left _ signalled
  -- Before it has ended without an error, the loader has sent rows only.
  cases loader with
  | opening records =>
    have all : received ++ channel = List.map incoming [] := posts.2
    exact (unsignalled all).elim
  | reading reader => obtain ⟨sent, all, _⟩ := posts; exact (unsignalled all).elim
  | sending msg reader => obtain ⟨sent, all, _⟩ := posts; exact (unsignalled all).elim
  | completing => obtain ⟨sent, all, _⟩ := posts; exact (unsignalled all).elim
  | ended outcome =>
    cases outcome with
    | err error => obtain ⟨sent, all⟩ := posts; exact (unsignalled all).elim
    | panic => obtain ⟨sent, all⟩ := posts; exact (unsignalled all).elim
    | ok =>
      obtain ⟨sent, all, read⟩ := posts
      obtain rfl | ⟨others, last, rfl⟩ := List.eq_nil_or_concat channel
      · rw [List.append_nil] at all
        refine ⟨rfl, rfl, ?_⟩
        rw [read, all, incomingMessages_append, incomingMessages_incoming]
        simp [incomingMessages, pendingOf, completion]
      · -- Something behind the signal: then the signal is among the rows.
        rw [List.concat_eq_append, ← List.append_assoc] at all
        obtain ⟨rows, _⟩ := List.append_inj' all rfl
        apply absurd (List.mem_append_left others signalled)
        rw [rows]
        exact completion_not_incoming sent

/-! ## Without failures -/

theorem LoadFile.running_of_advance {listening : Bool}
    (advanced : loader.advance build listening = some (following, new)) : loader.outcome = none := by
  cases loader with
  | ended outcome => cases advanced
  | opening | reading | sending | completing => rfl

/-- What the loader has put on the channel and what is still to come are all that the file holds. -/
def LoadFile.Loads (build : Build) (file : List Record) (posted : List ServiceMessage) :
    LoadFile → Prop
  | .opening records => records = file ∧ posted = []
  | .reading reader => ∃ sent, posted = sent.map incoming ∧
      loadFile build (.new file) = (sent ++ (loadFile build reader).1, (loadFile build reader).2)
  | .sending msg reader => ∃ sent, posted = sent.map incoming ∧
      loadFile build (.new file) = (sent ++ msg :: (loadFile build reader).1, (loadFile build reader).2)
  | .completing => ∃ sent, posted = sent.map incoming ∧ loadFile build (.new file) = (sent, .ok ())
  | .ended outcome => posted = Pipeline.posted build (.new file) ∧
      outcome = (loadFile build (.new file)).2

/-- What the loader does next is what `load_file` does. -/
theorem loadFile_next (build : Build) (reader : CsvReader) :
    loadFile build reader =
      match reader.next build with
      | (.ok (some msg), rest) => (msg :: (loadFile build rest).1, (loadFile build rest).2)
      | (.ok none, _) => ([], .ok ())
      | (.err error, _) => ([], .err error)
      | (.panic, _) => ([], .panic) := by
  simp only [CsvReader.loadFile_eq]
  exact reader.next_readRows build

theorem LoadFile.Loads.advance (loads : loader.Loads build file posted)
    (advanced : loader.advance build true = some (following, new)) :
    following.Loads build file (posted ++ new) := by
  cases loader with
  | opening records =>
    obtain ⟨rfl, rfl⟩ := loads
    cases advanced
    exact ⟨[], rfl, rfl⟩
  | reading reader =>
    obtain ⟨sent, rfl, loaded⟩ := loads
    have next := loadFile_next build reader
    rw [LoadFile.advance] at advanced
    generalize reader.next build = outcome at advanced next
    obtain ⟨outcome, rest⟩ := outcome
    cases outcome with
    | ok message =>
      cases message with
      | none =>
        cases advanced
        exact ⟨sent, by simp, by simp [loaded, next]⟩
      | some msg =>
        cases advanced
        exact ⟨sent, by simp, by simp [loaded, next]⟩
    | err error =>
      cases advanced
      simp [Loads, Pipeline.posted, loaded, next]
    | panic =>
      cases advanced
      simp [Loads, Pipeline.posted, loaded, next]
  | sending msg reader =>
    obtain ⟨sent, rfl, loaded⟩ := loads
    cases advanced
    exact ⟨sent ++ [msg], by simp, by simp [loaded]⟩
  | completing =>
    obtain ⟨sent, rfl, loaded⟩ := loads
    cases advanced
    simp [Loads, Pipeline.posted, loaded]
  | ended outcome => cases advanced

end PaymentsEngine.Pipeline
