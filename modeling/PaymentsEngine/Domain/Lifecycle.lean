import Mathlib.Data.List.Destutter
import PaymentsEngine.Domain.Invariants

/-! # The life of a transaction and the end of an account

Both are about histories.  The successful calls of a run that name one transaction are
a recording, then perhaps a dispute, then perhaps a resolve or a chargeback; and a
successful chargeback is the last successful call of all.
-/

namespace PaymentsEngine

open PaymentsEngine.Library PaymentsEngine.Library.Machine

namespace Account

/-! ## Successful calls -/

/-- The calls of a run that succeed, in order. -/
def succeeded (self : Account) (calls : List Call) : List Call :=
  accepted Account.apply Except.isOk self calls

/-- The calls of a run that succeed on one transaction. -/
def succeededOn (self : Account) (txId : TransactionId) (calls : List Call) : List Call :=
  (self.succeeded calls).filter fun call => call.message.transactionId = txId

/-- An invariant of the account together with the inputs that succeeded, whatever call each
    input makes. -/
theorem accepted_calls_invariant {Input : Type} (call : Input → Call)
    {Invariant : Account → List Input → Prop}
    (ignoresHistory : ∀ account done msg, Invariant account done →
      Invariant (account.logged msg) done)
    (keeps : ∀ account done input next, Invariant account done →
      account.Accepts (call input) next → Invariant next (done ++ [input]))
    {self : Account} (holds : Invariant self []) (inputs : List Input) :
    Invariant (after (fun account input => account.apply (call input)) self inputs)
      (accepted (fun account input => account.apply (call input)) Except.isOk self inputs) := by
  apply accepted_invariant (fun (account : Account) input => account.apply (call input)) _ holds
  intro account done input invariant
  obtain ⟨next, accepts⟩ | ⟨error, refused⟩ := apply_cases account (call input)
  · rw [accepts.apply_eq]
    exact keeps account done input next invariant accepts
  · rw [refused]
    simpa [Except.isOk, Except.toBool] using
      ignoresHistory account done (call input).message invariant

theorem succeeded_invariant {Invariant : Account → List Call → Prop}
    (ignoresHistory : ∀ account done msg, Invariant account done →
      Invariant (account.logged msg) done)
    (keeps : ∀ account done call next, Invariant account done → account.Accepts call next →
      Invariant next (done ++ [call]))
    {self : Account} (holds : Invariant self []) (calls : List Call) :
    Invariant (after Account.apply self calls) (self.succeeded calls) :=
  accepted_calls_invariant id ignoresHistory keeps holds calls

/-! ## The record of one transaction -/

/-- The calls that bring a recorded transaction to a state. -/
def movesTo : TransactionState → List TransactionType
  | .normal => []
  | .disputed => [.dispute]
  | .resolved => [.dispute, .resolve]
  | .chargeback => [.dispute, .chargeback]

/-- `done` is the history of what the account records for `txId`. -/
def RecordOf (self : Account) (txId : TransactionId) : List Call → Prop
  | [] => self.transactions.lookup txId = none
  | first :: rest =>
    (first.operation = .deposit ∨ first.operation = .withdrawal) ∧
      ∃ state, self.transactions.lookup txId = some (state, first.message) ∧
        rest.map Call.operation = movesTo state

/-- Only what is recorded for `txId` matters. -/
theorem RecordOf.of_lookup {self next : Account} {txId : TransactionId} {done : List Call}
    (record : self.RecordOf txId done)
    (same : next.transactions.lookup txId = self.transactions.lookup txId) :
    next.RecordOf txId done := by
  cases done with
  | nil => exact same.trans record
  | cons first rest => exact ⟨record.1, by rw [same]; exact record.2⟩

theorem RecordOf.recorded {self next : Account} {txId : TransactionId} {done : List Call}
    {call : Call} (record : self.RecordOf txId done) (recorded : Recorded self next call.message)
    (recording : call.operation = .deposit ∨ call.operation = .withdrawal) :
    next.RecordOf txId
      (done ++ if call.message.transactionId = txId then [call] else []) := by
  have lookups := lookup_insert_eq self.transactions call.message.transactionId txId
    (.normal, call.message)
  rw [← recorded.transactions] at lookups
  -- A recording of `txId` begins its history; one of another id does not touch it.
  by_cases named : call.message.transactionId = txId
  · rw [if_pos named.symm] at lookups
    have unrecorded : self.transactions.lookup txId = none :=
      Finmap.lookup_eq_none.mpr (named ▸ recorded.fresh)
    cases done with
    | nil =>
      simp only [named, if_true, List.nil_append]
      exact ⟨recording, .normal, lookups, rfl⟩
    | cons first rest =>
      obtain ⟨_, state, found, _⟩ := record
      rw [unrecorded] at found
      cases found
  · rw [if_neg (Ne.symm named)] at lookups
    simp only [named, if_false, List.append_nil]
    exact record.of_lookup lookups

theorem RecordOf.moved {self next : Account} {txId : TransactionId} {done : List Call}
    {call : Call} {transition : ExecuteTransition} {stored : InputMessage}
    (record : self.RecordOf txId done)
    (moved : Moved self next call.message transition stored)
    (path : movesTo transition.toState = movesTo transition.fromState ++ [call.operation]) :
    next.RecordOf txId
      (done ++ if call.message.transactionId = txId then [call] else []) := by
  have lookups := lookup_insert_eq self.transactions call.message.transactionId txId
    (transition.toState, stored)
  rw [← moved.transactions] at lookups
  -- A move of `txId` goes one step on its path; one of another id does not touch it.
  by_cases named : call.message.transactionId = txId
  · rw [if_pos named.symm] at lookups
    have found := moved.found
    rw [named] at found
    cases done with
    | nil => rw [RecordOf, found] at record; cases record
    | cons first rest =>
      obtain ⟨recording, state, lookedUp, moves⟩ := record
      rw [found] at lookedUp
      cases lookedUp
      refine ⟨recording, transition.toState, lookups, ?_⟩
      simp [named, path, moves]
  · rw [if_neg (Ne.symm named)] at lookups
    simp only [named, if_false, List.append_nil]
    exact record.of_lookup lookups

theorem RecordOf.accepts {self next : Account} {txId : TransactionId} {done : List Call}
    {call : Call} (record : self.RecordOf txId done) (accepts : self.Accepts call next) :
    next.RecordOf txId
      (done ++ if call.message.transactionId = txId then [call] else []) := by
  cases accepts with
  | deposit unlocked positive fresh =>
    exact record.recorded (recorded_record _ unlocked positive fresh) (.inl rfl)
  | withdrawal unlocked positive fresh =>
    exact record.recorded (recorded_record _ unlocked positive fresh) (.inr rfl)
  | dispute unlocked found => exact record.moved (moved_withDispute unlocked found) rfl
  | resolve unlocked found => exact record.moved (moved_withResolve unlocked found) rfl
  | chargeback unlocked found => exact record.moved (moved_withChargeback unlocked found) rfl

/-- Every run keeps the record of a transaction equal to the history of its successful calls. -/
theorem recordOf_after (clientId : ClientId) (txId : TransactionId) (calls : List Call) :
    (after Account.apply (new clientId) calls).RecordOf txId
      ((new clientId).succeededOn txId calls) := by
  refine @succeeded_invariant (fun account done => account.RecordOf txId
    (done.filter fun call => call.message.transactionId = txId)) ?_ ?_ _ ?_ calls
  · intro account done msg record
    exact record.of_lookup rfl
  · intro account done call next record accepts
    have stepped := record.accepts accepts
    by_cases named : call.message.transactionId = txId <;> simpa [List.filter_cons, named] using stepped
  · rfl

/-! ## The sequence of recorded states -/

/-- The states that may still follow one, in order. -/
def Path : TransactionState → List TransactionState → Prop
  | .normal, rest => rest <+: [.disputed, .resolved] ∨ rest <+: [.disputed, .chargeback]
  | .disputed, rest => rest <+: [.resolved] ∨ rest <+: [.chargeback]
  | .resolved, rest => rest = []
  | .chargeback, rest => rest = []

theorem path_nil (state : TransactionState) : Path state [] := by
  cases state <;> simp [Path]

theorem path_cons {state next : TransactionState} {transition : ExecuteTransition}
    {rest : List TransactionState} (allowed : state.canTransition next = .ok transition)
    (path : Path next rest) : Path state (next :: rest) := by
  obtain ⟨_, ⟨rfl, rfl⟩ | ⟨rfl, rfl⟩ | ⟨rfl, rfl⟩⟩ := TransactionState.canTransition_ok allowed
  · simpa [Path] using path
  · simp only [Path] at path ⊢
    simp [path]
  · simp only [Path] at path ⊢
    simp [path]

theorem stateOf_apply (self : Account) (call : Call) (txId : TransactionId) :
    (self.apply call).2.stateOf txId = self.stateOf txId ∨
      (self.stateOf txId = none ∧ (self.apply call).2.stateOf txId = some .normal) ∨
      ∃ state next transition, self.stateOf txId = some state ∧
        (self.apply call).2.stateOf txId = some next ∧ state.canTransition next = .ok transition := by
  obtain ⟨next, accepts⟩ | ⟨error, refused⟩ := apply_cases self call
  · rw [accepts.apply_eq]
    -- Only the id of an accepted call can change its state.
    obtain recorded | ⟨transition, stored, moved, allowed⟩ := accepts.shape
    · rw [stateOf_insert recorded.transactions]
      split
      next named =>
        have unrecorded := Finmap.lookup_eq_none.mpr recorded.fresh
        exact .inr (.inl ⟨by rw [stateOf, named, unrecorded]; rfl, rfl⟩)
      next => exact .inl rfl
    · rw [stateOf_insert moved.transactions]
      split
      next named =>
        refine .inr (.inr ⟨_, _, transition, ?_, rfl, allowed⟩)
        rw [stateOf, named, moved.found]
        rfl
      next => exact .inl rfl
  · rw [refused]
    exact .inl rfl

/-- The states that a run records for a transaction, repetitions dropped. -/
def recordedStates (self : Account) (txId : TransactionId) (calls : List Call) :
    List TransactionState :=
  ((states Account.apply self calls).filterMap fun account => account.stateOf txId).destutter (· ≠ ·)

theorem recordedStates_of_recorded {self : Account} {txId : TransactionId}
    {state : TransactionState} (recorded : self.stateOf txId = some state) (calls : List Call) :
    ∃ rest, self.recordedStates txId calls = state :: rest ∧ Path state rest := by
  induction calls generalizing self state with
  | nil => exact ⟨[], by simp [recordedStates, states, recorded], path_nil state⟩
  | cons call calls ih =>
    obtain ⟨following, split⟩ := states_eq_cons Account.apply (self.apply call).2 calls
    obtain same | ⟨absent, _⟩ | ⟨_, next, transition, found, moved, allowed⟩ :=
      stateOf_apply self call txId
    · -- The state is seen once more, and dropped as a repetition.
      obtain ⟨rest, continued, path⟩ := ih (same.trans recorded)
      refine ⟨rest, ?_, path⟩
      rw [← continued]
      simp [recordedStates, states, split, recorded, same, List.destutter_cons']
    · rw [recorded] at absent; cases absent
    · rw [recorded] at found
      cases found
      obtain ⟨rest, continued, path⟩ := ih moved
      refine ⟨next :: rest, ?_, path_cons allowed path⟩
      have different : state ≠ next := by
        rintro rfl
        cases state <;> cases allowed
      rw [← continued]
      simp [recordedStates, states, split, recorded, moved, different, List.destutter_cons']

theorem recordedStates_of_unrecorded (self : Account) (txId : TransactionId)
    (unrecorded : self.stateOf txId = none) (calls : List Call) :
    self.recordedStates txId calls = [] ∨
      ∃ rest, self.recordedStates txId calls = .normal :: rest ∧ Path .normal rest := by
  induction calls generalizing self with
  | nil => exact .inl (by simp [recordedStates, states, unrecorded])
  | cons call calls ih =>
    have skipped : self.recordedStates txId (call :: calls) =
        (self.apply call).2.recordedStates txId calls := by
      simp [recordedStates, states, unrecorded]
    rw [skipped]
    obtain same | ⟨_, normal⟩ | ⟨_, _, _, found, _, _⟩ := stateOf_apply self call txId
    · exact ih _ (same.trans unrecorded)
    · exact .inr (recordedStates_of_recorded normal calls)
    · rw [unrecorded] at found; cases found

/-! ## What a successful call moves -/

/-- `next` has the balances of `before` with `amount` moved the way an operation moves money. -/
def Transfers (operation : TransactionType) (amount : Int) (before next : Account) : Prop :=
  match operation with
  | .deposit => next.available = before.available + amount ∧ next.held = before.held ∧
      next.total = before.total + amount
  | .withdrawal => next.available = before.available - amount ∧ next.held = before.held ∧
      next.total = before.total - amount
  | .dispute => next.available = before.available - amount ∧ next.held = before.held + amount ∧
      next.total = before.total
  | .resolve => next.available = before.available + amount ∧ next.held = before.held - amount ∧
      next.total = before.total
  | .chargeback => next.available = before.available ∧ next.held = before.held - amount ∧
      next.total = before.total - amount

/-- The message stored for a transaction is the one of the first successful call on it. -/
theorem RecordOf.first {self : Account} {txId : TransactionId} {done : List Call}
    {state : TransactionState} {stored : InputMessage} (record : self.RecordOf txId done)
    (found : self.transactions.lookup txId = some (state, stored)) :
    ∃ first, done.head? = some first ∧ first.message = stored := by
  cases done with
  | nil => rw [RecordOf, found] at record; cases record
  | cons first rest =>
    obtain ⟨_, _, lookedUp, _⟩ := record
    rw [found] at lookedUp
    cases lookedUp
    exact ⟨first, rfl, rfl⟩

theorem RecordOf.transfers {self next : Account} {done : List Call} {call : Call}
    (record : self.RecordOf call.message.transactionId done) (accepts : self.Accepts call next) :
    ∃ first, (done ++ [call]).head? = some first ∧
      Transfers call.operation first.message.amount self next := by
  have unrecorded : call.message.transactionId ∉ self.transactions → done = [] := by
    intro fresh
    cases done with
    | nil => rfl
    | cons first rest =>
      obtain ⟨_, _, found, _⟩ := record
      exact absurd (Finmap.mem_of_lookup_eq_some found) fresh
  have headOf : ∀ first, done.head? = some first → (done ++ [call]).head? = some first := by
    intro first isHead
    rw [List.head?_append, isHead]
    rfl
  cases accepts with
  -- A recording is the first successful call on its id.
  | deposit unlocked positive fresh =>
    rw [unrecorded fresh]
    exact ⟨_, rfl, rfl, rfl, rfl⟩
  | withdrawal unlocked positive fresh =>
    rw [unrecorded fresh]
    exact ⟨_, rfl, by simp [Transfers, Int.sub_eq_add_neg]⟩
  | dispute unlocked found =>
    obtain ⟨first, isHead, rfl⟩ := record.first found
    exact ⟨first, headOf first isHead, by simp [Transfers]⟩
  | resolve unlocked found =>
    obtain ⟨first, isHead, rfl⟩ := record.first found
    exact ⟨first, headOf first isHead, by simp [Transfers]⟩
  | chargeback unlocked found =>
    obtain ⟨first, isHead, rfl⟩ := record.first found
    exact ⟨first, headOf first isHead, by simp [Transfers]⟩

/-- The whole life of transaction `txId` in a run of one account. -/
structure Lifecycle (clientId : ClientId) (txId : TransactionId) (calls : List Call) : Prop where
  -- Once recorded, it stays recorded with the same message.
  recordKept : ∀ earlier later, calls = earlier ++ later → ∀ state stored,
    (after Account.apply (new clientId) earlier).transactions.lookup txId = some (state, stored) →
      ∃ last, (after Account.apply (new clientId) calls).transactions.lookup txId =
        some (last, stored)
  statesInOrder :
    (new clientId).recordedStates txId calls <+: [.normal, .disputed, .resolved] ∨
      (new clientId).recordedStates txId calls <+: [.normal, .disputed, .chargeback]
  -- The successful calls are a recording, a dispute of it and one end of the dispute.
  callsInOrder : ∃ recording, (recording = .deposit ∨ recording = .withdrawal) ∧
    (((new clientId).succeededOn txId calls).map Call.operation <+: [recording, .dispute, .resolve] ∨
      ((new clientId).succeededOn txId calls).map Call.operation <+:
        [recording, .dispute, .chargeback])
  atMostOneDispute :
    (((new clientId).succeededOn txId calls).map Call.operation).count .dispute ≤ 1
  atMostOneEnd :
    (((new clientId).succeededOn txId calls).map Call.operation).count .resolve +
      (((new clientId).succeededOn txId calls).map Call.operation).count .chargeback ≤ 1
  -- Each of them moves the amount of the recording.
  amounts : ∀ earlier call later, calls = earlier ++ call :: later →
    call.message.transactionId = txId →
      ((after Account.apply (new clientId) earlier).apply call).1 = .ok () →
        ∃ recording, ((new clientId).succeededOn txId calls).head? = some recording ∧
          (recording.operation = .deposit ∨ recording.operation = .withdrawal) ∧
          Transfers call.operation recording.message.amount
            (after Account.apply (new clientId) earlier)
            ((after Account.apply (new clientId) earlier).apply call).2

theorem RecordOf.callsInOrder {self : Account} {txId : TransactionId} {done : List Call}
    (record : self.RecordOf txId done) :
    ∃ recording, (recording = .deposit ∨ recording = .withdrawal) ∧
      (done.map Call.operation <+: [recording, .dispute, .resolve] ∨
        done.map Call.operation <+: [recording, .dispute, .chargeback]) := by
  cases done with
  | nil => exact ⟨.deposit, .inl rfl, .inl (by simp)⟩
  | cons first rest =>
    obtain ⟨recording, state, _, moves⟩ := record
    refine ⟨first.operation, recording, ?_⟩
    rw [List.map_cons, moves]
    cases state <;> simp [movesTo]

theorem succeededOn_append (self : Account) (txId : TransactionId) (first second : List Call) :
    self.succeededOn txId (first ++ second) =
      self.succeededOn txId first ++ (after Account.apply self first).succeededOn txId second := by
  simp only [succeededOn, succeeded, accepted_append, List.filter_append]

theorem recordKept_of_append (clientId : ClientId) (txId : TransactionId)
    (earlier later : List Call) {state : TransactionState} {stored : InputMessage}
    (found : (after Account.apply (new clientId) earlier).transactions.lookup txId =
      some (state, stored)) :
    ∃ last, (after Account.apply (new clientId) (earlier ++ later)).transactions.lookup txId =
      some (last, stored) := by
  obtain ⟨first, isHead, rfl⟩ := (recordOf_after clientId txId earlier).first found
  have record := recordOf_after clientId txId (earlier ++ later)
  rw [succeededOn_append] at record
  cases done : (new clientId).succeededOn txId earlier with
  | nil => rw [done] at isHead; cases isHead
  | cons recording rest =>
    rw [done] at isHead record
    cases isHead
    obtain ⟨_, last, kept, _⟩ := record
    exact ⟨last, kept⟩

theorem amounts_of_append (clientId : ClientId) (txId : TransactionId) (earlier : List Call)
    (call : Call) (later : List Call) (named : call.message.transactionId = txId)
    (ok : ((after Account.apply (new clientId) earlier).apply call).1 = .ok ()) :
    ∃ recording,
      ((new clientId).succeededOn txId (earlier ++ call :: later)).head? = some recording ∧
        (recording.operation = .deposit ∨ recording.operation = .withdrawal) ∧
        Transfers call.operation recording.message.amount
          (after Account.apply (new clientId) earlier)
          ((after Account.apply (new clientId) earlier).apply call).2 := by
  subst named
  have record := recordOf_after clientId call.message.transactionId earlier
  obtain ⟨recording, isHead, transfers⟩ := record.transfers (accepts_of_ok ok)
  have succeeds : (after Account.apply (new clientId) earlier).succeededOn
      call.message.transactionId [call] = [call] := by
    simp [succeededOn, succeeded, accepted, ok, Except.isOk, Except.toBool]
  -- The head of the history is settled once `call` has succeeded, whatever comes later.
  have history : (new clientId).succeededOn call.message.transactionId (earlier ++ call :: later) =
      ((new clientId).succeededOn call.message.transactionId earlier ++ [call]) ++
        (after Account.apply (new clientId) (earlier ++ [call])).succeededOn
          call.message.transactionId later := by
    rw [List.append_cons, succeededOn_append, succeededOn_append, succeeds]
  have wholeHead : ((new clientId).succeededOn call.message.transactionId
      (earlier ++ call :: later)).head? = some recording := by
    rw [history, List.head?_append, isHead]
    rfl
  refine ⟨recording, wholeHead, ?_, transfers⟩
  have whole := recordOf_after clientId call.message.transactionId (earlier ++ call :: later)
  cases done : (new clientId).succeededOn call.message.transactionId (earlier ++ call :: later) with
  | nil => rw [done] at wholeHead; cases wholeHead
  | cons first rest =>
    rw [done] at wholeHead whole
    cases wholeHead
    exact whole.1

/-- Every transaction of every run has such a life. -/
theorem transaction_lifecycle (clientId : ClientId) (txId : TransactionId) (calls : List Call) :
    Lifecycle clientId txId calls where
  recordKept := by
    rintro earlier later rfl state stored found
    exact recordKept_of_append clientId txId earlier later found
  statesInOrder := by
    obtain none | ⟨rest, recorded, path⟩ :=
      recordedStates_of_unrecorded (new clientId) txId rfl calls
    · rw [none]; exact .inl (List.nil_prefix)
    · rw [recorded]
      obtain path | path := path
      · exact .inl (by simpa using path)
      · exact .inr (by simpa using path)
  callsInOrder := (recordOf_after clientId txId calls).callsInOrder
  atMostOneDispute := by
    obtain ⟨recording, rfl | rfl, ordered | ordered⟩ :=
      (recordOf_after clientId txId calls).callsInOrder <;>
      exact (ordered.sublist.count_le _).trans (by decide)
  atMostOneEnd := by
    obtain ⟨recording, rfl | rfl, ordered | ordered⟩ :=
      (recordOf_after clientId txId calls).callsInOrder <;>
      exact (Nat.add_le_add (ordered.sublist.count_le _) (ordered.sublist.count_le _)).trans
        (by decide)
  amounts := by
    rintro earlier call later rfl named ok
    exact amounts_of_append clientId txId earlier call later named ok

/-! ## A chargeback is the end of the account -/

/-- The lock, the charged back set and the successful chargebacks of a run agree. -/
def LockHistory (self : Account) (done : List Call) : Prop :=
  self.WellFormed ∧
    (self.locked = false → (done.map Call.operation).count .chargeback = 0) ∧
    (self.locked = true → (done.map Call.operation).count .chargeback = 1 ∧
      ∃ call ∈ done, call.operation = .chargeback ∧
        self.chargebacks = {call.message.transactionId})

theorem LockHistory.accepts {self next : Account} {done : List Call} {call : Call}
    (history : self.LockHistory done) (accepts : self.Accepts call next) :
    next.LockHistory (done ++ [call]) := by
  obtain ⟨wellFormed, none, _⟩ := history
  refine ⟨wellFormed.accepts accepts, ?_⟩
  -- Whatever is accepted finds the account unlocked, so no chargeback has succeeded before.
  have counted := none accepts.unlocked
  cases accepts with
  | deposit unlocked | withdrawal unlocked | dispute unlocked | resolve unlocked =>
    simp [unlocked, counted]
  | chargeback unlocked found =>
    have only := wellFormed.chargebacks_withChargeback unlocked found
    simp [counted, only]

theorem lockHistory_after (clientId : ClientId) (calls : List Call) :
    (after Account.apply (new clientId) calls).LockHistory ((new clientId).succeeded calls) := by
  apply succeeded_invariant
  · rintro account done msg ⟨wellFormed, none, one⟩
    exact ⟨wellFormed.logged msg, none, one⟩
  · intro account done call next history accepts
    exact history.accepts accepts
  · exact ⟨wellFormed_new clientId, fun _ => rfl, by intro locked; cases locked⟩

/-- A locked account refuses a whole run and keeps every field but the history. -/
theorem locked_run (self : Account) (locked : self.locked = true) (calls : List Call) :
    outputs Account.apply self calls = calls.map (fun _ => .error .accountLocked) ∧
      after Account.apply self calls =
        { self with historyChanges := self.historyChanges ++ calls.map Call.message } := by
  induction calls generalizing self with
  | nil => exact ⟨rfl, by simp⟩
  | cons call calls ih =>
    obtain ⟨refusals, last⟩ := ih (self.logged call.message) locked
    rw [outputs_cons, after_cons, apply_locked locked]
    refine ⟨by rw [refusals]; rfl, ?_⟩
    rw [last]
    simp [logged]

/-- What a run says about the lock of its account. -/
structure ChargebackIsFinal (clientId : ClientId) (calls : List Call) : Prop where
  lockedIff : (after Account.apply (new clientId) calls).locked = true ↔
    (after Account.apply (new clientId) calls).chargebacks ≠ ∅
  atMostOne : (((new clientId).succeeded calls).map Call.operation).count .chargeback ≤ 1
  -- The set of a locked account is the id of the chargeback that succeeded.
  onlyItsId : (after Account.apply (new clientId) calls).locked = true →
    ∃ call ∈ (new clientId).succeeded calls, call.operation = .chargeback ∧
      (after Account.apply (new clientId) calls).chargebacks = {call.message.transactionId}
  -- From a successful chargeback on, every call is refused and changes nothing.
  afterwards : ∀ earlier call later, calls = earlier ++ call :: later →
    call.operation = .chargeback →
      ((after Account.apply (new clientId) earlier).apply call).1 = .ok () →
        ∃ frozen, frozen = after Account.apply (new clientId) (earlier ++ [call]) ∧
          frozen.locked = true ∧ frozen.chargebacks = {call.message.transactionId} ∧
          outputs Account.apply frozen later = later.map (fun _ => .error .accountLocked) ∧
          after Account.apply frozen later =
            { frozen with historyChanges := frozen.historyChanges ++ later.map Call.message }
  -- A call that gets past the lock never meets a charged back transaction.
  noChargebackArm : (after Account.apply (new clientId) calls).locked = false → ∀ txId stored,
    (after Account.apply (new clientId) calls).transactions.lookup txId ≠ some (.chargeback, stored)
  noRevertToNormal : ∀ call,
    ((after Account.apply (new clientId) calls).apply call).1 ≠ .error .cannotRevertToNormal
  -- The lookup that follows a validated transition finds the transaction.
  secondLookup : ∀ key target transition account,
    (doTransition key target).exec (after Account.apply (new clientId) calls) =
        (.ok transition, account) →
      ∃ amount, (storedAmount key).exec account = (.ok amount, account)

theorem WellFormed.no_chargeback_recorded {self : Account} (wellFormed : self.WellFormed)
    (unlocked : self.locked = false) (txId : TransactionId) (stored : InputMessage) :
    self.transactions.lookup txId ≠ some (.chargeback, stored) := by
  intro found
  have recorded : self.stateOf txId = some .chargeback := by rw [stateOf, found]; rfl
  have member := (wellFormed.sets .chargeback txId).mpr recorded
  change txId ∈ self.chargebacks at member
  rw [wellFormed.unlockedSet unlocked] at member
  cases member

/-- No operation asks for the transition that would fail this way. -/
theorem apply_ne_cannotRevert (self : Account) (call : Call) :
    (self.apply call).1 ≠ .error .cannotRevertToNormal := by
  -- Only a transition to `normal` fails so, and the operations ask for the other three.
  have transitions : ∀ msg target effect, target ≠ TransactionState.normal →
      ((processTransition target effect msg).exec self).1 ≠ .error .cannotRevertToNormal := by
    intro msg target effect notNormal
    rw [exec_processTransition]
    split
    · simp
    · cases self.transactions.lookup msg.transactionId with
      | none => simp
      | some entry =>
        obtain ⟨state, stored⟩ := entry
        cases state <;> cases target <;> simp_all [TransactionState.canTransition]
  obtain ⟨operation, msg⟩ := call
  cases operation with
  | deposit =>
    simp only [apply, process, exec_processDeposit]
    split_ifs <;> simp
  | withdrawal =>
    simp only [apply, process, exec_processWithdrawal]
    split_ifs <;> simp
  | dispute => exact transitions msg .disputed _ (by simp)
  | resolve => exact transitions msg .resolved _ (by simp)
  | chargeback => exact transitions msg .chargeback _ (by simp)

theorem storedAmount_of_doTransition {self account : Account} {key : TransactionId}
    {target : TransactionState} {transition : ExecuteTransition}
    (validated : (doTransition key target).exec self = (.ok transition, account)) :
    ∃ amount, (storedAmount key).exec account = (.ok amount, account) := by
  rw [exec_doTransition] at validated
  cases found : self.transactions.lookup key with
  | none => simp [found] at validated
  | some entry =>
    simp only [found, Prod.mk.injEq] at validated
    obtain ⟨_, rfl⟩ := validated
    exact ⟨entry.2.amount, by rw [exec_storedAmount, found]⟩

/-- A successful chargeback is the last successful call on its account. -/
theorem chargeback_is_final (clientId : ClientId) (calls : List Call) :
    ChargebackIsFinal clientId calls where
  lockedIff := by
    have wellFormed := wellFormed_after clientId calls
    constructor
    · intro locked
      obtain ⟨id, only⟩ := wellFormed.lockedSet locked
      rw [only]
      exact Finset.singleton_ne_empty id
    · intro nonempty
      by_contra unlocked
      exact nonempty (wellFormed.unlockedSet (by simpa using unlocked))
  atMostOne := by
    obtain ⟨_, none, one⟩ := lockHistory_after clientId calls
    cases locked : (after Account.apply (new clientId) calls).locked with
    | true => exact le_of_eq (one locked).1
    | false => exact le_of_eq_of_le (none locked) (Nat.zero_le 1)
  onlyItsId := fun locked => ((lockHistory_after clientId calls).2.2 locked).2
  afterwards := by
    rintro earlier ⟨operation, msg⟩ later rfl rfl ok
    refine ⟨_, rfl, ?_⟩
    have wellFormed := wellFormed_after clientId earlier
    have accepts := accepts_of_ok ok
    rw [after_concat]
    -- The account after the chargeback is that of the rule.
    generalize ((after Account.apply (new clientId) earlier).apply ⟨.chargeback, msg⟩).2 = frozen
      at accepts
    cases accepts with
    | chargeback unlocked found =>
      exact ⟨withChargeback_locked _ _ _, wellFormed.chargebacks_withChargeback unlocked found,
        locked_run _ (withChargeback_locked _ _ _) later⟩
  noChargebackArm := (wellFormed_after clientId calls).no_chargeback_recorded
  noRevertToNormal := apply_ne_cannotRevert _
  secondLookup := fun _ _ _ _ validated => storedAmount_of_doTransition validated

end Account

end PaymentsEngine
