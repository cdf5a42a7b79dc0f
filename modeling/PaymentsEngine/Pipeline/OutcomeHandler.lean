import PaymentsEngine.Pipeline.ExitStatus

/-! # The outcome handler

The handler counts the outcomes and logs the refused ones.  Without failures it ends
only when everything that could be read has been applied and nobody can send an
outcome any more, so it has missed none of them: its counts and its log are those of
the rows applied one after the other.
-/

namespace PaymentsEngine.Pipeline

open PaymentsEngine.Library PaymentsEngine.Library.Schedule PaymentsEngine.Library.Machine

variable {heap : PendingHeap} {config : ServiceConfig} {build : Build} {file : List Record}
variable {s t : State heap}

/-- What the handler counts, and the failed requests that it logs. -/
structure Tally where
  okCount : Nat
  errCount : Nat
  log : List (ClientId × TransactionId × String)
  deriving DecidableEq, Repr

namespace Tally

def new : Tally := { okCount := 0, errCount := 0, log := [] }

/-- The loop body of the handler. -/
def record (self : Tally) (resolution : Resolution) : Tally :=
  let (clientId, txId, res) := resolution
  match res with
  | .ok () => { self with okCount := self.okCount + 1 }
  | .error e => { self with errCount := self.errCount + 1, log := self.log ++ [(clientId, txId, e.text)] }

def of (resolutions : List Resolution) : Tally := resolutions.foldl record new

theorem of_concat (resolutions : List Resolution) (resolution : Resolution) :
    of (resolutions ++ [resolution]) = (of resolutions).record resolution := by
  simp [of]

/-- Every outcome is counted once, and the failed ones are logged. -/
theorem counts_of (resolutions : List Resolution) :
    (of resolutions).okCount + (of resolutions).errCount = resolutions.length ∧
      (of resolutions).log.length = (of resolutions).errCount := by
  induction resolutions using List.reverseRecOn with
  | nil => simp [of, new]
  | append_singleton resolutions resolution ih =>
    obtain ⟨clientId, txId, res⟩ := resolution
    rw [of_concat]
    cases res with
    | ok => simp only [record, List.length_append, List.length_singleton]; omega
    | error e => simp only [record, List.length_append, List.length_singleton]; omega

end Tally

namespace State

/-- The outcomes that have been sent to the handler. -/
def resolutions (s : State heap) : List Resolution := s.world.sent.filterMap Event.resolution

/-- What the handler does with the outcome that it reads by an action. -/
def observe (action : Action) (s : State heap) (tally : Tally) : Tally :=
  match action, s.handler with
  | .advance .handler, .receiving handled =>
    match s.resolutions[handled]? with
    | some resolution => tally.record resolution
    | none => tally
  | _, _ => tally

/-- The counters have what was read, and all there is once the handler has returned. -/
def Tallied (s : State heap) (tally : Tally) : Prop :=
  match s.handler with
  | .receiving handled => handled ≤ s.resolutions.length ∧ tally = .of (s.resolutions.take handled)
  | .ended outcome => outcome = .ok () ∧ tally = .of s.resolutions

end State

/-- The counters of the handler after a schedule. -/
def tallyOf (heap : PendingHeap) (config : ServiceConfig) (build : Build) (file : List Record)
    (schedule : List Action) : Tally :=
  observed (State.step config build) State.observe schedule (.initial heap file) .new

theorem Server.Serves.resolutions {world next : World} {server following : Server heap}
    (serves : server.Serves world next following) :
    world.sent.filterMap Event.resolution <+: next.sent.filterMap Event.resolution ∧
      (server.holdsOutcomeSender = false →
        next.sent.filterMap Event.resolution = world.sent.filterMap Event.resolution) := by
  refine ⟨serves.sent_prefix.filterMap _, ?_⟩
  intro dropped
  cases serves with
  | returns | applies => rfl
  | answers tx res buffer caller => cases dropped
  | confirms callback buffer => simp [Event.resolution]

namespace State

/-- Outcomes that are sent later change nothing about what was read. -/
theorem Tallied.extended {tally : Tally} (tallied : s.Tallied tally) (handler : t.handler = s.handler)
    (more : s.resolutions <+: t.resolutions)
    (afterwards : s.handler.outcome ≠ none → t.resolutions = s.resolutions) : t.Tallied tally := by
  rw [Tallied] at tallied ⊢
  rw [handler]
  cases stage : s.handler with
  | receiving handled =>
    rw [stage] at tallied
    obtain ⟨within, read⟩ := tallied
    obtain ⟨others, split⟩ := more
    refine ⟨?_, ?_⟩
    · rw [← split, List.length_append]
      omega
    · rw [read, ← split, List.take_append_of_le_length within]
  | ended outcome =>
    rw [stage] at tallied
    rw [afterwards (by simp [stage, Handler.outcome])]
    exact tallied

theorem Undisturbed.tallied {action : Action} {tally : Tally} (undisturbed : s.Undisturbed)
    (goes : s.Goes config build action t) (tallied : s.Tallied tally) :
    t.Tallied (s.observe action tally) := by
  cases goes with
  | serves advanced =>
    have serves := undisturbed.serves advanced
    rw [undisturbed.withServer_eq serves]
    refine tallied.extended rfl serves.resolutions.1 ?_
    intro ended
    exact serves.resolutions.2 (outcomeSenderHeld_eq_false.mp (undisturbed.handled ended)).2.2
  | @handles handled receiving unread =>
    simp only [Tallied, receiving] at tallied
    obtain ⟨_, rfl⟩ := tallied
    have next : s.resolutions[handled]? = some s.resolutions[handled] := List.getElem?_eq_getElem unread
    have one_more : s.resolutions.take (handled + 1) =
        s.resolutions.take handled ++ [s.resolutions[handled]] := by
      rw [List.take_add_one, next, Option.toList_some]
    simp only [observe, receiving, next, Tallied]
    refine ⟨unread, ?_⟩
    change _ = Tally.of (s.resolutions.take (handled + 1))
    rw [one_more, Tally.of_concat]
  | @handlerReturns handled receiving read dropped =>
    simp only [Tallied, receiving] at tallied
    obtain ⟨_, rfl⟩ := tallied
    have noMore : s.resolutions.length ≤ handled := read
    have all : s.resolutions[handled]? = none := List.getElem?_eq_none noMore
    simp only [observe, receiving, all, Tallied, List.take_of_length_le noMore]
    exact ⟨trivial, rfl⟩
  | loads | loaderFails | receives | leavesLoop | joins | isSignalled | signalDropped | writes =>
    exact tallied

end State

/-- Nothing is in the heap of a service that holds no callback of a transaction. -/
theorem Server.Kept.settled {world : World} {received : List ServiceMessage} {server : Server heap}
    (kept : server.Kept world received) (dropped : server.holdsOutcomeSender = false) :
    world.sent.filterMap Event.resolution = outputs Accounts.resolve ∅ world.applied ∧
      (Numbered (incomingMessages received) → world.applied = incomingMessages received) := by
  have settled : ∀ buffer : heap.Carrier, heap.contents buffer = 0 →
      Service.Accounted heap world buffer received [] →
      (Numbered (incomingMessages received) → Pipeline.InOrder heap world received buffer) →
      world.sent.filterMap Event.resolution = outputs Accounts.resolve ∅ world.applied ∧
        (Numbered (incomingMessages received) → world.applied = incomingMessages received) := by
    intro buffer empty accounted inOrder
    refine ⟨?_, fun numbered => inOrder_empty (inOrder numbered) empty⟩
    rw [← accounted.outcomes, List.append_nil]
  have empty : ∀ buffer : heap.Carrier, decide (heap.len buffer ≠ 0) = false →
      heap.contents buffer = 0 := by
    intro buffer none
    rw [decide_eq_false_iff_not, not_not, heap.len_eq, Multiset.card_eq_zero] at none
    exact none
  cases server with
  | receiving buffer => exact settled buffer (empty buffer dropped) kept.1 kept.2
  | popping buffer caller => exact settled buffer (empty buffer dropped) kept.1.1 kept.2
  | sending tx res buffer caller => cases dropped
  | confirming callback buffer => exact settled buffer (empty buffer dropped) kept.1.1 kept.2
  | ended outcome => exact settled heap.new heap.contents_new kept.1 kept.2

/-- A loader that has ended without being struck has put all that it could read on the channel. -/
theorem LoadFile.Loads.posted {loader : LoadFile} {posted : List ServiceMessage}
    (loads : loader.Loads build file posted) (ended : loader.outcome ≠ none) :
    posted = Pipeline.posted build (.new file) := by
  cases loader with
  | ended outcome => exact loads.1
  | opening | reading | sending | completing => exact absurd rfl ended

/-- Without failures a handler that has returned has counted every row that could be read as the
    rows do that are applied one after the other, and has logged the refused ones in their order. -/
theorem handler_tally (heap : PendingHeap) (config : ServiceConfig) (build : Build)
    (file : List Record) (short : file.length ≤ 2 ^ 64) (schedule : List Action)
    (calm : ∀ action ∈ schedule, action.isFailure = false) (s : State heap)
    (ran : run (State.step config build) schedule (.initial heap file) = some s)
    (outcome : Outcome Unit) (ended : s.handler = .ended outcome) :
    let messages := (loadFile build (.new file)).1
    let tally := tallyOf heap config build file schedule
    outcome = .ok () ∧ tally = .of (outputs Accounts.resolve ∅ messages) ∧
      tally.okCount + tally.errCount = messages.length ∧ tally.log.length = tally.errCount := by
  intro messages tally
  have regular : ∀ action ∈ schedule, action.disturbs = false := by
    intro action member
    have unfailed := calm action member
    cases action with
    | fail task failure => cases unfailed
    | advance | leaveLoop | join | signal | writeSnapshot => rfl
  have unfailed : ∀ failure, .fail .loader failure ∉ schedule := by
    intro failure member
    cases calm _ member
  have kept := undisturbed_run
    (fun done state => run (State.step config build) done (.initial heap file) = some state ∧
      Exits build file done state ∧ state.Tallied (tallyOf heap config build file done))
    ⟨rfl, exits_initial, Nat.zero_le _, rfl⟩ ?_ regular ran
  · obtain ⟨undisturbed, -, -, exits, tallied⟩ := kept
    rw [State.Tallied, ended] at tallied
    obtain ⟨loaded, none, dropped⟩ :=
      State.outcomeSenderHeld_eq_false.mp (undisturbed.handled (by simp [ended, Handler.outcome]))
    obtain ⟨outcomes, inOrder⟩ := undisturbed.kept.settled dropped
    -- The loader has ended, and all the rows that it has sent were received.
    have received : incomingMessages s.received = messages := by
      have drained : incomingMessages s.channel = [] := by rw [incomingMessages, none, List.map_nil]
      have posted := (exits.loads unfailed).posted loaded
      have rows := incomingMessages_posted build file
      rw [← posted, incomingMessages_append, drained, List.append_nil] at rows
      exact rows
    have numbered : Numbered messages := numbered_loadFile build short
    rw [received] at inOrder
    have all : s.resolutions = outputs Accounts.resolve ∅ messages := by
      rw [← inOrder numbered, ← outcomes, State.resolutions]
    rw [all] at tallied
    have counts := Tally.counts_of (outputs Accounts.resolve ∅ messages)
    rw [← tallied.2, outputs_length] at counts
    exact ⟨tallied.1, tallied.2, counts⟩
  · intro done action state next taken undisturbed progress goes before
    obtain ⟨ran, exits, tallied⟩ := before
    refine ⟨by simp [run_append, ran, run, taken], exits.goes undisturbed progress goes, ?_⟩
    have tallied := undisturbed.tallied goes tallied
    rwa [tallyOf, observed_append ran, observed, taken]

/-- The handler returns after the deposit was applied. -/
theorem handler_tally_of_deposit :
    tallyOf (listHeap PendingTransaction.cmp) ⟨1⟩ .debug depositFile
        (depositSchedule ++ [.advance .handler]) =
      .of (outputs Accounts.resolve ∅ (loadFile .debug (.new depositFile)).1) := by
  have returns : (run (State.step ⟨1⟩ .debug) (depositSchedule ++ [.advance .handler])
      (.initial (listHeap PendingTransaction.cmp) depositFile)).map (fun s => s.handler.outcome) =
        some (some (.ok ())) := by
    decide +kernel
  obtain ⟨s, ran, returned⟩ := Option.map_eq_some_iff.mp returns
  cases stage : s.handler with
  | receiving handled => rw [stage] at returned; cases returned
  | ended outcome =>
    exact (handler_tally _ ⟨1⟩ .debug depositFile (by decide) _ (by decide) s ran outcome stage).2.1

end PaymentsEngine.Pipeline
