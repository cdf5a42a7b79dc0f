import PaymentsEngine.Domain.Behaviour
import PaymentsEngine.Domain.Lifecycle

/-! # Equality of accounts

The derived equality of accounts compares the recorded messages with the equality of
messages, which is made for their order and looks at their key alone.  So the accounts
may be equal and still hold different amounts for a transaction, and a dispute of it
tells them apart.
-/

namespace PaymentsEngine

open PaymentsEngine.Library PaymentsEngine.Library.Machine

namespace Account

/-- The `==` of recorded transactions. -/
def entryEq (entry other : TransactionState × InputMessage) : Bool :=
  entry.1 == other.1 && entry.2.eq other.2

/-- The derived `PartialEq`.  The history is a field of debug builds only. -/
def eq (build : Build) (self other : Account) : Bool :=
  self.clientId == other.clientId && self.available == other.available && self.held == other.held &&
    self.total == other.total && self.locked == other.locked &&
    eqBy entryEq self.transactions other.transactions && self.normal == other.normal &&
    self.disputes == other.disputes && self.resolves == other.resolves &&
    self.chargebacks == other.chargebacks &&
    (match build with
      | .debug => self.historyChanges.isEqv other.historyChanges InputMessage.eq
      | .release => true)

section Eq

variable {build : Build} {first second : Account}

theorem balances_of_eq (equal : first.eq build second = true) : balances first = balances second := by
  simp only [eq, Bool.and_eq_true, beq_iff_eq] at equal
  simp [balances, equal]

/-- What equal accounts have recorded for a transaction. -/
theorem lookups_of_eq (equal : first.eq build second = true) (id : TransactionId) :
    first.transactions.lookup id = none ∧ second.transactions.lookup id = none ∨
      ∃ state stored other, first.transactions.lookup id = some (state, stored) ∧
        second.transactions.lookup id = some (state, other) ∧ stored.key = other.key := by
  simp only [eq, Bool.and_eq_true] at equal
  obtain ⟨⟨⟨⟨⟨⟨_, transactions⟩, _⟩, _⟩, _⟩, _⟩, _⟩ := equal
  obtain absent | ⟨⟨state, stored⟩, ⟨otherState, other⟩, found, sameFound, same⟩ :=
    lookups_of_eqBy transactions id
  · exact .inl absent
  · rw [entryEq, Bool.and_eq_true, beq_iff_eq, InputMessage.eq_iff] at same
    obtain ⟨sameState, sameKey⟩ := same
    cases sameState
    exact .inr ⟨state, stored, other, found, sameFound, sameKey⟩

/-- The amounts of the transactions that both accounts have in the same open state are the same. -/
def SameOpenAmounts (first second : Account) : Prop :=
  ∀ id state stored other, first.transactions.lookup id = some (state, stored) →
    second.transactions.lookup id = some (state, other) → state.isOpen = true →
      stored.amount = other.amount

theorem behavesLike_iff_of_eq (equal : first.eq build second = true) :
    BehavesLike first second ↔ first.locked = true ∨ SameOpenAmounts first second := by
  constructor
  · intro like
    cases locked : first.locked with
    | true => exact .inl rfl
    | false =>
      right
      intro id state stored other found sameFound isOpen
      obtain ⟨third, thirdFound, amounts⟩ := like.found locked found isOpen
      rw [sameFound] at thirdFound
      cases thirdFound
      exact amounts.symm
  · -- The derived equality gives everything but the amounts, which a locked account never uses.
    intro condition
    obtain ⟨available, held, total, locked⟩ := balances_eq_iff.mp (balances_of_eq equal)
    refine ⟨available, held, total, locked, ?_⟩
    intro unlocked id
    have amounts : SameOpenAmounts first second := condition.resolve_left (by simp [unlocked])
    obtain ⟨absent, sameAbsent⟩ | ⟨state, stored, other, found, sameFound, _⟩ := lookups_of_eq equal id
    · rw [absent, sameAbsent]
    · rw [found, sameFound, Option.map_some, Option.map_some, remaining, remaining]
      cases isOpen : state.isOpen with
      | true => rw [amounts id state stored other found sameFound isOpen]
      | false => rfl

end Eq

/-! ## Reached accounts -/

/-- Calls of an account in a build, until one of them panics. -/
def calling (build : Build) : Option Account → Call → Option TransactionResult × Option Account :=
  failing (callIn build)

/-- No call of a well-formed account panics. -/
theorem unfailing_callIn (build : Build) : Unfailing (callIn build) Account.apply WellFormed where
  steps := by
    intro account call wellFormed
    cases build with
    | debug => exact wellFormed.debugApply call
    | release => rfl
  keeps := fun _ call wellFormed => wellFormed.apply call

theorem after_calling (build : Build) (clientId : ClientId) (calls : List Call) :
    after (calling build) (some (new clientId)) calls =
      some (after Account.apply (new clientId) calls) :=
  (unfailing_callIn build).after_some calls (wellFormed_new clientId)

section Reached

variable {build : Build} {clientId otherClient : ClientId} {calls others : List Call}
variable {first second : Account}

theorem wellFormed_of_reached
    (reached : after (calling build) (some (new clientId)) calls = some first) : first.WellFormed := by
  rw [after_calling, Option.some.injEq] at reached
  rw [← reached]
  exact wellFormed_after clientId calls

theorem indistinguishable_calling_iff (build : Build) (wellFormed : first.WellFormed)
    (alsoWellFormed : second.WellFormed) :
    Indistinguishable (calling build) (Option.map balances) (some first) (some second) ↔
      BehavesLike first second :=
  ((unfailing_callIn build).indistinguishable_iff wellFormed alsoWellFormed).trans
    indistinguishable_iff

/-- Equal accounts that were reached answer all further calls alike, with equal balances and locks
    all along, exactly when they are locked or hold the same amounts for their open transactions. -/
theorem eq_indistinguishable_iff
    (reached : after (calling build) (some (new clientId)) calls = some first)
    (alsoReached : after (calling build) (some (new otherClient)) others = some second)
    (equal : first.eq build second = true) :
    Indistinguishable (calling build) (Option.map balances) (some first) (some second) ↔
      first.locked = true ∨ SameOpenAmounts first second := by
  have told := indistinguishable_calling_iff build (wellFormed_of_reached reached)
    (wellFormed_of_reached alsoReached)
  exact told.trans (behavesLike_iff_of_eq equal)

end Reached

/-- Two deposits of one client, with consecutive numbers. -/
def twoDeposits (first second : Int) : List Call :=
  [⟨.deposit, ⟨0, .deposit, 1, 1, first⟩⟩, ⟨.deposit, ⟨1, .deposit, 1, 2, second⟩⟩]

/-- Two deposits, and the same two with their amounts exchanged. -/
theorem eq_indistinguishable_iff_twoDeposits :
    let first := after Account.apply (new 1) (twoDeposits 5 3)
    let second := after Account.apply (new 1) (twoDeposits 3 5)
    Indistinguishable (calling .debug) (Option.map balances) (some first) (some second) ↔
      first.locked = true ∨ SameOpenAmounts first second :=
  eq_indistinguishable_iff (after_calling .debug 1 _) (after_calling .debug 1 _) (by decide)

/-- Equality of reached accounts would stand for equal behaviour. -/
def EqualityMeaningful (build : Build) : Prop :=
  ∀ (clientId otherClient : ClientId) (calls others : List Call) (first second : Account),
    after (calling build) (some (new clientId)) calls = some first →
      after (calling build) (some (new otherClient)) others = some second →
        first.eq build second = true →
          Indistinguishable (calling build) (Option.map balances) (some first) (some second)

/-- Exchanging the amounts of two deposits leaves an equal account, until one is disputed. -/
theorem exchanged_deposits_equal : ¬ EqualityMeaningful .debug ∧ ¬ EqualityMeaningful .release := by
  let first := after Account.apply (new 1) (twoDeposits 5 3)
  let second := after Account.apply (new 1) (twoDeposits 3 5)
  have told (build : Build) :
      ¬ Indistinguishable (calling build) (Option.map balances) (some first) (some second) := by
    intro same
    have like := (indistinguishable_calling_iff build (wellFormed_after 1 (twoDeposits 5 3))
      (wellFormed_after 1 (twoDeposits 3 5))).mp same
    -- The dispute of the first deposit holds five in the one account and three in the other.
    have looks := (indistinguishable_iff.mpr like).view_step ⟨.dispute, ⟨2, .dispute, 1, 1, 0⟩⟩
    revert looks
    decide
  constructor
  · intro meaningful
    exact told .debug (meaningful 1 1 _ _ first second (after_calling .debug 1 _)
      (after_calling .debug 1 _) (by decide))
  · intro meaningful
    exact told .release (meaningful 1 1 _ _ first second (after_calling .release 1 _)
      (after_calling .release 1 _) (by decide))

/-! ## Messages named by their keys -/

/-- What is recorded for a transaction is a message of the run. -/
theorem stored_of_run (clientId : ClientId) (calls : List Call) {id : TransactionId}
    {state : TransactionState} {stored : InputMessage}
    (found : (after Account.apply (new clientId) calls).transactions.lookup id = some (state, stored)) :
    ∃ call ∈ calls, call.message = stored := by
  have record := recordOf_after clientId id calls
  cases history : (new clientId).succeededOn id calls with
  | nil => rw [history, RecordOf, found] at record; cases record
  | cons first rest =>
    rw [history] at record
    obtain ⟨_, _, lookedUp, _⟩ := record
    rw [found] at lookedUp
    cases lookedUp
    have succeeded : first ∈ (new clientId).succeededOn id calls := history ▸ List.mem_cons_self
    have called := (accepted_sublist Account.apply Except.isOk (new clientId) calls).subset
      (List.mem_filter.mp succeeded).1
    exact ⟨first, called, rfl⟩

/-- Between runs in which a key names one message, as the sequence numbers of a file make it,
    equality stands for behaviour. -/
theorem indistinguishable_of_shared_messages {build : Build} {clientId otherClient : ClientId}
    {calls others : List Call}
    (shared : ∀ call ∈ calls, ∀ other ∈ others, call.message.key = other.message.key →
      call.message = other.message)
    (equal : (after Account.apply (new clientId) calls).eq build
      (after Account.apply (new otherClient) others) = true) :
    Indistinguishable (calling build) (Option.map balances)
      (some (after Account.apply (new clientId) calls))
      (some (after Account.apply (new otherClient) others)) := by
  rw [indistinguishable_calling_iff build (wellFormed_after clientId calls)
    (wellFormed_after otherClient others), behavesLike_iff_of_eq equal]
  right
  intro id state stored other found sameFound _
  obtain ⟨absent, _⟩ | ⟨_, _, _, lookedUp, sameLookedUp, sameKey⟩ := lookups_of_eq equal id
  · rw [found] at absent; cases absent
  · rw [found] at lookedUp
    rw [sameFound] at sameLookedUp
    cases lookedUp
    cases sameLookedUp
    -- Both stored messages are messages of the runs, and they have the same key.
    obtain ⟨call, called, rfl⟩ := stored_of_run clientId calls found
    obtain ⟨otherCall, otherCalled, rfl⟩ := stored_of_run otherClient others sameFound
    rw [shared call called otherCall otherCalled sameKey]

end Account

end PaymentsEngine
