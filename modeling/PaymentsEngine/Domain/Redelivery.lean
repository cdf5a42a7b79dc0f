import PaymentsEngine.Library.Replay
import PaymentsEngine.Domain.Behaviour
import PaymentsEngine.Domain.Lifecycle

/-! # Failed calls and redelivered calls

A call that fails leaves every field but the debug-only history as it was.  And a call
that succeeded once fails from then on: whatever it did to the account, a recorded id,
a transaction past the state it needs or the lock, is never undone.  `Spent` collects
these reasons.
-/

namespace PaymentsEngine

open PaymentsEngine.Library PaymentsEngine.Library.Machine

/-- Errors that the same message gets again, whatever the account does in between. -/
def TransactionError.lasting : TransactionError → Bool
  | .insufficientBalance | .invalidTransaction | .transactionNotDisputed => false
  | .accountLocked | .duplicateTransaction | .cannotRevertToNormal | .amountNegative
  | .transactionTerminalState | .alreadyDisputed => true

namespace Account

/-! ## Accounts without their history -/

/-- The account as a release build has it. -/
def released (self : Account) : Account := { self with historyChanges := [] }

@[simp] theorem released_logged (self : Account) (msg : InputMessage) :
    (self.logged msg).released = self.released := rfl

/-- A failed call writes nothing but the history, in a release and in a debug build. -/
theorem failed_call_atomic (self : Account) (call : Call) (error : TransactionError)
    (next : Account) (failed : self.apply call = (.error error, next) ∨
      self.debugApply call = some (.error error, next)) :
    next = { self with historyChanges := self.historyChanges ++ [call.message] } := by
  have applied : self.apply call = (.error error, next) := by
    obtain applied | checked := failed
    · exact applied
    · rw [debugApply] at checked
      split at checked
      · exact Option.some.inj checked
      · cases checked
  have notOk : (self.apply call).1 ≠ .ok () := by rw [applied]; simp
  have refused := apply_refused notOk
  rw [applied] at refused
  exact refused

/-- An account with a disputed and an undisputed deposit. -/
def oneDisputed : Account :=
  after Account.apply (new 7) [⟨.deposit, ⟨0, .deposit, 7, 1, 5⟩⟩, ⟨.deposit, ⟨1, .deposit, 7, 2, 3⟩⟩,
    ⟨.dispute, ⟨2, .dispute, 7, 1, 0⟩⟩]

/-- It refuses a second dispute of the one and a resolve of the other and, in a debug build, a
    chargeback of a third. -/
theorem failed_call_atomic_oneDisputed :
    oneDisputed.apply ⟨.dispute, ⟨3, .dispute, 7, 1, 0⟩⟩ =
        (.error .alreadyDisputed, oneDisputed.logged ⟨3, .dispute, 7, 1, 0⟩) ∧
      oneDisputed.apply ⟨.resolve, ⟨3, .resolve, 7, 2, 0⟩⟩ =
        (.error .transactionNotDisputed, oneDisputed.logged ⟨3, .resolve, 7, 2, 0⟩) ∧
      oneDisputed.debugApply ⟨.chargeback, ⟨3, .chargeback, 7, 9, 0⟩⟩ =
        some (.error .invalidTransaction, oneDisputed.logged ⟨3, .chargeback, 7, 9, 0⟩) := by
  have kept {call : Call} {error : TransactionError}
      (refused : (oneDisputed.apply call).1 = .error error) :
      oneDisputed.apply call = (.error error, oneDisputed.logged call.message) :=
    Prod.ext refused (failed_call_atomic oneDisputed call error _ (.inl (Prod.ext refused rfl)))
  have checked (call : Call) : oneDisputed.debugApply call = some (oneDisputed.apply call) :=
    (wellFormed_after 7 _).debugApply call
  refine ⟨kept (by decide), kept (by decide), ?_⟩
  rw [checked]
  exact congrArg some (kept (by decide))

section Released

variable {first second : Account}

theorem released_eq_iff : first.released = second.released ↔
    first = { second with historyChanges := first.historyChanges } := by
  obtain ⟨_, _, _, _, _, _, _, _, _, _, _⟩ := first
  simp [released, Account.mk.injEq]

theorem execute_released (transition : ExecuteTransition) (self : Account) (key : TransactionId) :
    (transition.execute self key).released = transition.execute self.released key := by
  obtain ⟨fromState, toState⟩ := transition
  unfold ExecuteTransition.execute released
  cases fromState <;> cases toState <;> dsimp only <;>
    cases self.transactions.lookup key <;> rfl

/-- An accepted call does not look at the history. -/
theorem Accepts.released {next : Account} {call : Call} (accepts : first.Accepts call next)
    (same : first.released = second.released) :
    ∃ other, second.Accepts call other ∧ other.released = next.released := by
  -- The accounts differ in the history at most, so the same rule applies to both.
  rw [released_eq_iff] at same
  generalize first.historyChanges = history at same
  subst same
  cases accepts with
  | deposit unlocked positive fresh => exact ⟨_, .deposit unlocked positive fresh, rfl⟩
  | withdrawal unlocked positive fresh covered =>
    exact ⟨_, .withdrawal unlocked positive fresh covered, rfl⟩
  | dispute unlocked found =>
    exact ⟨_, .dispute unlocked found, by
      rw [withDispute, withDispute, move, move, execute_released, execute_released]; rfl⟩
  | resolve unlocked found =>
    exact ⟨_, .resolve unlocked found, by
      rw [withResolve, withResolve, move, move, execute_released, execute_released]; rfl⟩
  | chargeback unlocked found =>
    exact ⟨_, .chargeback unlocked found, by
      rw [withChargeback, withChargeback, move, move, execute_released, execute_released]; rfl⟩

theorem behavesLike_of_released (same : first.released = second.released) :
    BehavesLike first second := by
  rw [released_eq_iff] at same
  generalize first.historyChanges = history at same
  subst same
  exact ⟨rfl, rfl, rfl, rfl, fun _ _ => rfl⟩

theorem respects_released : Respects Account.apply released where
  answers := fun call same => (behavesLike_of_released same).answers call
  views := by
    intro first second call same
    obtain ⟨next, accepts⟩ | ⟨error, refused⟩ := apply_cases first call
    · obtain ⟨other, others, alike⟩ := accepts.released same
      rw [accepts.apply_eq, others.apply_eq, alike]
    · have answers := (behavesLike_of_released same).answers call
      have notOk : (second.apply call).1 ≠ .ok () := by rw [← answers, refused]; simp
      rw [refused, apply_refused notOk, released_logged, released_logged, same]

end Released

/-! ## Calls that can never succeed again -/

/-- Whether a transaction has come too far for an operation on it. -/
def isPast : TransactionType → Option TransactionState → Bool
  | .deposit, some _ | .withdrawal, some _ => true
  | .dispute, some .disputed | .dispute, some .resolved | .dispute, some .chargeback => true
  | .resolve, some .resolved | .resolve, some .chargeback => true
  | .chargeback, some .resolved | .chargeback, some .chargeback => true
  | _, _ => false

/-- What never changes again rules the call out. -/
inductive Spent (self : Account) (call : Call) : Prop where
  | locked (locked : self.locked = true)
  | notPositive (recording : call.operation = .deposit ∨ call.operation = .withdrawal)
      (notPositive : call.message.amount ≤ 0)
  | past (passed : isPast call.operation (self.stateOf call.message.transactionId) = true)

theorem stateOf_of_fresh {self : Account} {txId : TransactionId} (fresh : txId ∉ self.transactions) :
    self.stateOf txId = none := by
  rw [stateOf, Finmap.lookup_eq_none.mpr fresh]
  rfl

theorem stateOf_of_found {self : Account} {txId : TransactionId} {state : TransactionState}
    {stored : InputMessage} (found : self.transactions.lookup txId = some (state, stored)) :
    self.stateOf txId = some state := by
  rw [stateOf, found]
  rfl

/-- An accepted call finds its transaction where it can still take it. -/
theorem Accepts.not_isPast {self next : Account} {call : Call} (accepts : self.Accepts call next) :
    isPast call.operation (self.stateOf call.message.transactionId) = false := by
  cases accepts with
  | deposit _ _ fresh | withdrawal _ _ fresh => rw [stateOf_of_fresh fresh]; rfl
  | dispute _ found | resolve _ found | chargeback _ found => rw [stateOf_of_found found]; rfl

/-- And leaves it where it cannot take it again, or the account locked. -/
theorem Accepts.isPast {self next : Account} {call : Call} (accepts : self.Accepts call next) :
    isPast call.operation (next.stateOf call.message.transactionId) = true := by
  cases accepts with
  | deposit unlocked positive fresh =>
    rw [stateOf_insert (recorded_record _ unlocked positive fresh).transactions, if_pos rfl]; rfl
  | withdrawal unlocked positive fresh =>
    rw [stateOf_insert (recorded_record _ unlocked positive fresh).transactions, if_pos rfl]; rfl
  | dispute unlocked found =>
    rw [stateOf_insert (moved_withDispute unlocked found).transactions, if_pos rfl]; rfl
  | resolve unlocked found =>
    rw [stateOf_insert (moved_withResolve unlocked found).transactions, if_pos rfl]; rfl
  | chargeback unlocked found =>
    rw [stateOf_insert (moved_withChargeback unlocked found).transactions, if_pos rfl]; rfl

/-- A transaction never goes back. -/
theorem isPast_apply (self : Account) (call : Call) (operation : TransactionType) (txId : TransactionId)
    (passed : isPast operation (self.stateOf txId) = true) :
    isPast operation ((self.apply call).2.stateOf txId) = true := by
  obtain same | ⟨absent, _⟩ | ⟨before, next, transition, found, moved, allowed⟩ :=
    stateOf_apply self call txId
  · rw [same]; exact passed
  · rw [absent] at passed
    cases operation <;> cases passed
  · rw [found] at passed
    rw [moved]
    obtain ⟨_, ⟨rfl, rfl⟩ | ⟨rfl, rfl⟩ | ⟨rfl, rfl⟩⟩ := TransactionState.canTransition_ok allowed <;>
      cases operation <;> first | rfl | cases passed

/-- A spent call is refused and writes nothing but the history. -/
theorem Spent.apply_eq {self : Account} {call : Call} (spent : self.Spent call) :
    ∃ error, self.apply call = (.error error, self.logged call.message) := by
  obtain ⟨next, accepts⟩ | refused := apply_cases self call
  · cases spent with
    | locked locked => rw [accepts.unlocked] at locked; cases locked
    | notPositive recording notPositive =>
      cases accepts with
      | deposit _ positive | withdrawal _ positive => exact absurd positive (not_lt.mpr notPositive)
      | dispute | resolve | chargeback => obtain equal | equal := recording <;> cases equal
    | past passed => rw [accepts.not_isPast] at passed; cases passed
  · exact refused

/-- A spent call stays spent, whatever is called in between. -/
theorem Spent.apply {self : Account} {call : Call} (spent : self.Spent call) (other : Call) :
    (self.apply other).2.Spent call := by
  cases spent with
  | locked locked => rw [apply_locked locked]; exact .locked locked
  | notPositive recording notPositive => exact .notPositive recording notPositive
  | past passed => exact .past (isPast_apply self other _ _ passed)

/-! ## Refusals that last -/

theorem stateOf_of_mem {self : Account} {txId : TransactionId} (recorded : txId ∈ self.transactions) :
    ∃ state, self.stateOf txId = some state := by
  obtain ⟨⟨state, stored⟩, found⟩ := Finmap.mem_iff.mp recorded
  exact ⟨state, stateOf_of_found found⟩

theorem spent_of_transition_error {self : Account} {msg : InputMessage} {target : TransactionState}
    {effect : Int → Account → Account} {operation : TransactionType} {error : TransactionError}
    (failed : ((processTransition target effect msg).exec self).1 = .error error)
    (lasts : error.lasting = true)
    (stuck : ∀ state, state.canTransition target = .error error → isPast operation (some state) = true) :
    self.Spent ⟨operation, msg⟩ := by
  rw [exec_processTransition] at failed
  cases locked : self.locked with
  | true => exact .locked locked
  | false =>
    cases found : self.transactions.lookup msg.transactionId with
    | none =>
      simp only [locked, found] at failed
      cases failed
      cases lasts
    | some entry =>
      obtain ⟨state, stored⟩ := entry
      simp only [locked, found] at failed
      cases moved : state.canTransition target with
      | ok transition => simp [moved] at failed
      | error refusal =>
        have same : refusal = error := by simpa [moved] using failed
        refine .past ?_
        rw [stateOf_of_found found]
        exact stuck state (by rw [moved, same])

/-- A lasting error means that the call is spent. -/
theorem spent_of_lasting {self : Account} {call : Call} {error : TransactionError}
    (failed : (self.apply call).1 = .error error) (lasts : error.lasting = true) :
    self.Spent call := by
  obtain ⟨operation, msg⟩ := call
  cases operation with
  | deposit =>
    simp only [apply, process, exec_processDeposit] at failed
    split at failed
    next locked => exact .locked (by simpa using locked)
    next =>
      split at failed
      next notPositive => exact .notPositive (.inl rfl) (not_lt.mp notPositive)
      next =>
        split at failed
        next recorded =>
          obtain ⟨state, known⟩ := stateOf_of_mem recorded
          exact .past (by rw [known]; rfl)
        next => cases failed
  | withdrawal =>
    simp only [apply, process, exec_processWithdrawal] at failed
    split at failed
    next locked => exact .locked (by simpa using locked)
    next =>
      split at failed
      next notPositive => exact .notPositive (.inr rfl) (not_lt.mp notPositive)
      next =>
        split at failed
        next recorded =>
          obtain ⟨state, known⟩ := stateOf_of_mem recorded
          exact .past (by rw [known]; rfl)
        next =>
          split at failed
          · cases failed; cases lasts
          · cases failed
  -- A transition fails for good when the transaction is past the state that it needs.
  | dispute =>
    apply spent_of_transition_error failed lasts
    intro state stuck
    cases state <;> cases stuck <;> rfl
  | resolve =>
    apply spent_of_transition_error failed lasts
    intro state stuck
    cases state <;> cases stuck <;> first | rfl | cases lasts
  | chargeback =>
    apply spent_of_transition_error failed lasts
    intro state stuck
    cases state <;> cases stuck <;> first | rfl | cases lasts

/-! ## Redelivery -/

/-- `again` asks for the same operation on the same transaction of the same client; its amount and
    its sequence number may be others. -/
def redelivers (first again : Call) : Bool :=
  first.operation = again.operation ∧ first.message.clientId = again.message.clientId ∧
    first.message.transactionId = again.message.transactionId

theorem spent_of_accepts {self next : Account} {first again : Call}
    (accepts : self.Accepts first next) (repeated : redelivers first again = true) :
    next.Spent again := by
  simp only [redelivers, decide_eq_true_eq] at repeated
  obtain ⟨sameOperation, _, sameId⟩ := repeated
  have passed := accepts.isPast
  rw [sameOperation, sameId] at passed
  exact .past passed

theorem Spent.after {self : Account} {call : Call} (spent : self.Spent call) (calls : List Call) :
    (Machine.after Account.apply self calls).Spent call := by
  have keeps : ∀ account other, Spent account call → (account.apply other).2.Spent call :=
    fun _ other spent => spent.apply other
  exact after_invariant Account.apply keeps spent calls

/-- What redeliveries do in a run of an account. -/
structure AtMostOnce (self : Account) (calls : List Call) : Prop where
  -- After a success, and whatever is called in between, a redelivery is refused.
  refused : ∀ earlier first between again later,
    calls = earlier ++ first :: between ++ again :: later →
      ((Machine.after Account.apply self earlier).apply first).1 = .ok () →
        redelivers first again = true →
          ∃ error, (Machine.after Account.apply self (earlier ++ first :: between)).apply again =
            (.error error,
              (Machine.after Account.apply self (earlier ++ first :: between)).logged again.message)
  -- Without the redeliveries the run gives the other answers and the account that it gave.
  removed :
    let kept := withoutRepeats Except.isOk redelivers [] (log Account.apply self calls)
    outputs Account.apply self (kept.map Prod.fst) = kept.map Prod.snd ∧
      (Machine.after Account.apply self (kept.map Prod.fst)).released =
        (Machine.after Account.apply self calls).released

/-- Every redelivery of what succeeded is spent. -/
def RedeliveriesSpent (self : Account) (done : List Call) : Prop :=
  ∀ first ∈ done, ∀ again, redelivers first again = true → self.Spent again

theorem RedeliveriesSpent.apply {self : Account} {done : List Call}
    (spent : self.RedeliveriesSpent done) (call : Call) :
    (self.apply call).2.RedeliveriesSpent
      (if (self.apply call).1.isOk then call :: done else done) := by
  have earlier : (self.apply call).2.RedeliveriesSpent done := by
    intro first member again repeated
    exact (spent first member again repeated).apply call
  obtain ⟨next, accepts⟩ | ⟨error, refused⟩ := apply_cases self call
  · rw [accepts.apply_eq] at earlier ⊢
    intro first member again repeated
    obtain rfl | member := List.mem_cons.mp member
    · exact spent_of_accepts accepts repeated
    · exact earlier first member again repeated
  · rw [refused] at earlier ⊢
    exact earlier

/-- A redelivered message has no effect, and a run does not miss it. -/
theorem at_most_once (self : Account) (calls : List Call) : AtMostOnce self calls where
  refused := by
    rintro earlier first between again later rfl ok repeated
    rw [after_append, after_cons]
    exact ((spent_of_accepts (accepts_of_ok ok) repeated).after between).apply_eq
  removed := by
    apply run_withoutRepeats respects_released RedeliveriesSpent
    · intro account done call spent
      exact spent.apply call
    · intro account done first again spent member repeated
      obtain ⟨error, refused⟩ := (spent first member again repeated).apply_eq
      rw [refused, released_logged]
    · intro first member
      cases member
    · rfl

end Account

end PaymentsEngine
