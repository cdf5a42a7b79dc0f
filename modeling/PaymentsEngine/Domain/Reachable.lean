import PaymentsEngine.Domain.Ledger
import PaymentsEngine.Domain.Redelivery

/-! # The accounts that messages can reach

The invariants of an account say what holds of every account that messages lead to.
Here is everything that they can say: an account stands for a client when what it
records could have been recorded and the rest of it follows from that, and the accounts
that stand are exactly those that some messages of the client lead to.
-/

namespace PaymentsEngine

open PaymentsEngine.Library PaymentsEngine.Library.Machine

abbrev Transactions := FiniteMap TransactionId (TransactionState × InputMessage)

/-- The message of a deposit or withdrawal that is recorded under its own id. -/
structure Recording (clientId : ClientId) (id : TransactionId) (stored : InputMessage) : Prop where
  transactionId : stored.transactionId = id
  clientId : stored.clientId = clientId
  records : stored.transactionType = .deposit ∨ stored.transactionType = .withdrawal
  positive : 0 < stored.amount

namespace Transactions

/-- What a recorded transaction adds to the amount of a type. -/
def typed (transactionType : TransactionType) (entry : TransactionState × InputMessage) : Int :=
  if entry.2.transactionType = transactionType then entry.2.amount else 0

def amountOfType (self : Transactions) (transactionType : TransactionType) : Int :=
  sumOver (typed transactionType) self

def Recordings (clientId : ClientId) (self : Transactions) : Prop :=
  ∀ id state stored, self.lookup id = some (state, stored) → Recording clientId id stored

/-- The transactions could have been recorded: the deposits cover the withdrawals, and the account
    was locked by the first chargeback. -/
structure Admissible (clientId : ClientId) (transactions : Transactions) : Prop where
  recordings : transactions.Recordings clientId
  covered : transactions.amountOfType .withdrawal ≤ transactions.amountOfType .deposit
  once : ∀ first second stored other, transactions.lookup first = some (.chargeback, stored) →
    transactions.lookup second = some (.chargeback, other) → first = second

end Transactions

namespace Account

/-- The account stands for the client: its balances, its lock and its sets are those that its
    transactions lead to.  What a debug build keeps of the history is left open. -/
structure Stands (clientId : ClientId) (account : Account) : Prop where
  owner : account.clientId = clientId
  admissible : Transactions.Admissible clientId account.transactions
  sets : ∀ state id, id ∈ account.stateSet state ↔ account.stateOf id = some state
  locked : account.locked = true ↔ ∃ id, account.stateOf id = some .chargeback
  held : account.held = account.amountInState .disputed
  total : account.total = account.amountOfType .deposit - account.amountOfType .withdrawal -
    account.amountInState .chargeback
  available : account.available = account.total - account.held

/-! ## Every reached account stands -/

section Recordings

variable {clientId : ClientId} {self next : Account} {msg stored : InputMessage}

theorem Recorded.recordings (recordings : Transactions.Recordings clientId self.transactions)
    (recorded : Recorded self next msg) (own : msg.clientId = clientId)
    (records : msg.transactionType = .deposit ∨ msg.transactionType = .withdrawal) :
    Transactions.Recordings clientId next.transactions := by
  intro id state stored found
  rw [recorded.transactions, lookup_insert_eq] at found
  split at found
  next same =>
    cases found
    exact ⟨same.symm, own, records, recorded.positive⟩
  next => exact recordings id state stored found

theorem Moved.recordings {transition : ExecuteTransition}
    (recordings : Transactions.Recordings clientId self.transactions)
    (moved : Moved self next msg transition stored) :
    Transactions.Recordings clientId next.transactions := by
  intro id state stored found
  rw [moved.transactions, lookup_insert_eq] at found
  split at found
  next same =>
    cases found
    rw [same]
    exact recordings _ _ _ moved.found
  next => exact recordings id state stored found

theorem recordings_accepts (recordings : Transactions.Recordings clientId self.transactions)
    (own : msg.clientId = clientId) (accepts : self.Accepts msg.call next) :
    Transactions.Recordings clientId next.transactions := by
  generalize called : msg.call = call at accepts
  cases accepts with
  | deposit unlocked positive fresh =>
    obtain ⟨typed, rfl⟩ := Call.mk.inj called
    exact (recorded_record _ unlocked positive fresh).recordings recordings own (.inl typed)
  | withdrawal unlocked positive fresh =>
    obtain ⟨typed, rfl⟩ := Call.mk.inj called
    exact (recorded_record _ unlocked positive fresh).recordings recordings own (.inr typed)
  | dispute unlocked found => exact (moved_withDispute unlocked found).recordings recordings
  | resolve unlocked found => exact (moved_withResolve unlocked found).recordings recordings
  | chargeback unlocked found => exact (moved_withChargeback unlocked found).recordings recordings

end Recordings

section Reached

variable {clientId : ClientId} {messages : List InputMessage}

theorem recordings_after (own : ∀ msg ∈ messages, msg.clientId = clientId) :
    Transactions.Recordings clientId (after dispatch (new clientId) messages).transactions := by
  induction messages using List.reverseRecOn with
  | nil =>
    intro id state stored found
    simp [new] at found
  | append_singleton messages msg ih =>
    rw [List.forall_mem_append] at own
    have recordings := ih own.1
    rw [after_concat]
    exact @apply_invariant (fun account => Transactions.Recordings clientId account.transactions) _ _
      recordings fun next accepts => recordings_accepts recordings (own.2 msg (by simp)) accepts

theorem clientId_after (messages : List InputMessage) :
    (after dispatch (new clientId) messages).clientId = clientId :=
  @after_invariant _ _ _ dispatch (fun account => account.clientId = clientId)
    (fun account msg same => (account.apply_clientId msg.call).trans same) _ rfl messages

theorem WellFormed.charged_once {self : Account} (wellFormed : self.WellFormed)
    {first second : TransactionId} (charged : self.stateOf first = some .chargeback)
    (other : self.stateOf second = some .chargeback) : first = second := by
  have firstMember := (wellFormed.sets .chargeback first).mpr charged
  have secondMember := (wellFormed.sets .chargeback second).mpr other
  cases locked : self.locked with
  | false =>
    simp only [stateSet, wellFormed.unlockedSet locked] at firstMember
    cases firstMember
  | true =>
    obtain ⟨id, only⟩ := wellFormed.lockedSet locked
    simp only [stateSet, only, Finset.mem_singleton] at firstMember secondMember
    exact firstMember.trans secondMember.symm

theorem WellFormed.locked_iff {self : Account} (wellFormed : self.WellFormed) :
    self.locked = true ↔ ∃ id, self.stateOf id = some .chargeback := by
  constructor
  · intro locked
    obtain ⟨id, only⟩ := wellFormed.lockedSet locked
    exact ⟨id, (wellFormed.sets .chargeback id).mp (by simp [stateSet, only])⟩
  · rintro ⟨id, charged⟩
    by_contra unlocked
    have member := (wellFormed.sets .chargeback id).mpr charged
    simp only [stateSet, wellFormed.unlockedSet (by simpa using unlocked)] at member
    cases member

theorem stands_after (own : ∀ msg ∈ messages, msg.clientId = clientId) :
    (after dispatch (new clientId) messages).Stands clientId := by
  obtain ⟨wellFormed, ⟨book, _, represents⟩, _, _⟩ := kept_after clientId messages
  have total := represents.total
  have available := represents.available
  have covered : book.debits ≤ book.credits := book.solvent
  rw [Book.total, represents.credits_eq, represents.debits_eq, represents.reversed_eq] at total
  rw [Book.available, ← represents.total, ← represents.held] at available
  rw [represents.credits_eq, represents.debits_eq] at covered
  exact {
    owner := clientId_after messages
    admissible := {
      recordings := recordings_after own
      covered := covered
      once := by
        intro first second stored other charged alsoCharged
        exact wellFormed.charged_once (by rw [stateOf, charged]; rfl) (by rw [stateOf, alsoCharged]; rfl) }
    sets := wellFormed.sets
    locked := wellFormed.locked_iff
    held := represents.held.trans represents.held_eq
    total := total
    available := available }

end Reached

section Stands

variable {clientId : ClientId} {first second : Account}

/-- Nothing but the transactions decides what an account stands for. -/
theorem Stands.eq (stands : first.Stands clientId) (stands' : second.Stands clientId)
    (same : first.transactions = second.transactions) : first.released = second.released := by
  have states : ∀ id, first.stateOf id = second.stateOf id := by
    intro id
    rw [stateOf, stateOf, same]
  have amounts : first.amountInState = second.amountInState := by
    funext state
    rw [amountInState, amountInState, same]
  have types : first.amountOfType = second.amountOfType := by
    funext transactionType
    rw [amountOfType, amountOfType, same]
  have held : first.held = second.held := by rw [stands.held, stands'.held, amounts]
  have total : first.total = second.total := by rw [stands.total, stands'.total, amounts, types]
  have available : first.available = second.available := by
    rw [stands.available, stands'.available, held, total]
  have locked : first.locked = second.locked := by
    rw [Bool.eq_iff_iff, stands.locked, stands'.locked]
    simp only [states]
  have sets : ∀ state, first.stateSet state = second.stateSet state := by
    intro state
    ext id
    rw [stands.sets, stands'.sets, states]
  have owner := stands.owner.trans stands'.owner.symm
  simp only [released, mk.injEq]
  exact ⟨owner, available, held, total, locked, same, sets .normal, sets .disputed, sets .resolved,
    sets .chargeback, trivial⟩

/-- What the history says is left open. -/
theorem Stands.of_released (stands : first.Stands clientId)
    (same : first.released = second.released) : second.Stands clientId := by
  rw [released_eq_iff] at same
  generalize first.historyChanges = history at same
  subst same
  exact ⟨stands.owner, stands.admissible, stands.sets, stands.locked, stands.held, stands.total,
    stands.available⟩

end Stands

end Account

/-! ## Every account that stands is reached -/

/-- How many calls have brought a transaction to its state. -/
def TransactionState.rank : TransactionState → Nat
  | .normal => 1
  | .disputed => 2
  | .resolved | .chargeback => 3

namespace Transactions

def rank (self : Transactions) : Nat := sumOver (fun entry => entry.1.rank) self

section Earlier

variable {clientId : ClientId} {transactions : Transactions} {id : TransactionId}
variable {state : TransactionState} {stored : InputMessage}

/-- The transactions before a call that has moved one of them. -/
theorem Admissible.restate (admissible : transactions.Admissible clientId)
    (found : transactions.lookup id = some (state, stored)) {before : TransactionState}
    (uncharged : before ≠ .chargeback) :
    Admissible clientId (transactions.insert id (before, stored)) where
  recordings := by
    intro other state message lookedUp
    rw [lookup_insert_eq] at lookedUp
    split at lookedUp
    next same =>
      cases lookedUp
      rw [same]
      exact admissible.recordings id _ _ found
    next => exact admissible.recordings other state message lookedUp
  covered := by
    have covered := admissible.covered
    rw [amountOfType, amountOfType] at covered ⊢
    rwa [@sumOver_insert_same _ _ _ _ _ (typed .withdrawal) _ _ _ (before, stored) found rfl,
      @sumOver_insert_same _ _ _ _ _ (typed .deposit) _ _ _ (before, stored) found rfl]
  once := by
    intro first second message other charged alsoCharged
    rw [lookup_insert_eq] at charged alsoCharged
    split at charged
    · cases charged; exact absurd rfl uncharged
    · split at alsoCharged
      · cases alsoCharged; exact absurd rfl uncharged
      · exact admissible.once first second message other charged alsoCharged

theorem rank_restate (found : transactions.lookup id = some (state, stored))
    {before : TransactionState} (lower : before.rank < state.rank) :
    rank (transactions.insert id (before, stored)) < transactions.rank := by
  have exchange := @sumOver_insert_replace _ _ _ _ _
    (fun entry : TransactionState × InputMessage => entry.1.rank) _ _ _ (before, stored) found
  dsimp only at exchange
  simp only [rank]
  omega

/-- The transactions before one of them was recorded. -/
theorem Admissible.erase (admissible : transactions.Admissible clientId)
    (covered : amountOfType (transactions.erase id) .withdrawal ≤
      amountOfType (transactions.erase id) .deposit) : Admissible clientId (transactions.erase id) where
  recordings := by
    intro other state message found
    exact admissible.recordings other state message (lookup_of_erase found)
  covered := covered
  once := by
    intro first second message other charged alsoCharged
    exact admissible.once first second message other (lookup_of_erase charged)
      (lookup_of_erase alsoCharged)

theorem rank_erase (found : transactions.lookup id = some (state, stored)) :
    rank (transactions.erase id) < transactions.rank := by
  have split := sumOver_eq_erase (fun entry : TransactionState × InputMessage => entry.1.rank) found
  have positive : 0 < state.rank := by cases state <;> decide
  dsimp only at split
  simp only [rank]
  omega

theorem amountOfType_erase (found : transactions.lookup id = some (state, stored))
    (transactionType : TransactionType) :
    transactions.amountOfType transactionType =
      typed transactionType (state, stored) + amountOfType (transactions.erase id) transactionType :=
  sumOver_eq_erase (typed transactionType) found

end Earlier

end Transactions

namespace Account

/-! ## The last call -/

section Last

variable {clientId : ClientId} {self : Account} {transactions : Transactions}
variable {id : TransactionId} {stored : InputMessage}

theorem dispatch_transactions {next : Account} {msg : InputMessage} {call : Call}
    (called : msg.call = call) (accepts : self.Accepts call next) :
    (self.dispatch msg).2.transactions = next.transactions := by
  subst called
  rw [dispatch, accepts.apply_eq]

/-- A transaction can be moved wherever it may go. -/
theorem exists_move {before state : TransactionState} (clientId : ClientId)
    (unlocked : self.locked = false) (allowed : before.canTransition state = .ok ⟨before, state⟩)
    (found : self.transactions.lookup id = some (before, stored)) :
    ∃ msg, msg.clientId = clientId ∧
      (self.dispatch msg).2.transactions = self.transactions.insert id (state, stored) := by
  obtain ⟨_, ⟨rfl, rfl⟩ | ⟨rfl, rfl⟩ | ⟨rfl, rfl⟩⟩ := TransactionState.canTransition_ok allowed
  · refine ⟨⟨0, .dispute, clientId, id, 0⟩, rfl, ?_⟩
    rw [dispatch_transactions rfl (.dispute unlocked found)]
    exact (moved_withDispute unlocked found).transactions
  · refine ⟨⟨0, .resolve, clientId, id, 0⟩, rfl, ?_⟩
    rw [dispatch_transactions rfl (.resolve unlocked found)]
    exact (moved_withResolve unlocked found).transactions
  · refine ⟨⟨0, .chargeback, clientId, id, 0⟩, rfl, ?_⟩
    rw [dispatch_transactions rfl (.chargeback unlocked found)]
    exact (moved_withChargeback unlocked found).transactions

/-- One call leads from every account with the earlier transactions to one with these. -/
def ComesFrom (clientId : ClientId) (transactions earlier : Transactions) : Prop :=
  earlier.Admissible clientId ∧ earlier.rank < transactions.rank ∧
    ∀ account : Account, account.Stands clientId → account.transactions = earlier →
      ∃ msg, msg.clientId = clientId ∧ (account.dispatch msg).2.transactions = transactions

/-- What has moved last, when nothing else is charged back. -/
theorem comesFrom_moved (before : TransactionState) {state : TransactionState}
    (admissible : transactions.Admissible clientId)
    (found : transactions.lookup id = some (state, stored))
    (allowed : before.canTransition state = .ok ⟨before, state⟩)
    (only : ∀ other message, transactions.lookup other = some (.chargeback, message) → other = id) :
    ComesFrom clientId transactions (transactions.insert id (before, stored)) := by
  have lower : before ≠ .chargeback ∧ before.rank < state.rank := by
    obtain ⟨_, ⟨rfl, rfl⟩ | ⟨rfl, rfl⟩ | ⟨rfl, rfl⟩⟩ := TransactionState.canTransition_ok allowed <;>
      decide
  refine ⟨admissible.restate found lower.1, Transactions.rank_restate found lower.2, ?_⟩
  intro account stands earlier
  have unlocked : account.locked = false := by
    by_contra locked
    obtain ⟨other, charged⟩ := stands.locked.mp (by simpa using locked)
    rw [stateOf, earlier, lookup_insert_eq] at charged
    split at charged
    · exact lower.1 (by simpa using charged)
    next different =>
      obtain ⟨⟨_, message⟩, lookedUp, rfl⟩ := Option.map_eq_some_iff.mp charged
      exact different (only other message lookedUp)
  have lookedUp : account.transactions.lookup id = some (before, stored) := by
    rw [earlier, Finmap.lookup_insert]
  obtain ⟨msg, own, moved⟩ := exists_move clientId unlocked allowed lookedUp
  refine ⟨msg, own, ?_⟩
  rw [moved, earlier, Finmap.insert_insert, ← insert_after_erase, insert_erase found]

/-- The balances while nothing has been disputed. -/
theorem Stands.available_undisputed (stands : self.Stands clientId)
    (normal : ∀ id state stored, self.transactions.lookup id = some (state, stored) → state = .normal) :
    self.locked = false ∧
      self.available = self.amountOfType .deposit - self.amountOfType .withdrawal := by
  have none : ∀ state, state ≠ .normal → ∀ id, self.stateOf id ≠ some state := by
    intro state other id inState
    obtain ⟨⟨_, stored⟩, found, rfl⟩ := Option.map_eq_some_iff.mp inState
    exact other (normal id _ stored found)
  have held := stands.held
  have total := stands.total
  have available := stands.available
  rw [amountInState_none (none .disputed (by decide))] at held
  rw [amountInState_none (none .chargeback (by decide))] at total
  refine ⟨?_, by omega⟩
  by_contra locked
  obtain ⟨id, charged⟩ := stands.locked.mp (by simpa using locked)
  exact none .chargeback (by decide) id charged

/-- What was recorded last, when nothing has been disputed yet. -/
theorem comesFrom_recorded (admissible : transactions.Admissible clientId)
    (normal : ∀ id state stored, transactions.lookup id = some (state, stored) → state = .normal)
    (found : transactions.lookup id = some (.normal, stored))
    (covered : Transactions.amountOfType (transactions.erase id) .withdrawal ≤
      Transactions.amountOfType (transactions.erase id) .deposit) :
    ComesFrom clientId transactions (transactions.erase id) := by
  refine ⟨admissible.erase covered, Transactions.rank_erase found, ?_⟩
  intro account stands earlier
  have recording := admissible.recordings id _ stored found
  have fresh : stored.transactionId ∉ account.transactions := by
    rw [recording.transactionId, earlier]
    exact Finmap.notMem_erase_self
  obtain ⟨unlocked, available⟩ := stands.available_undisputed (by
    intro other state message lookedUp
    rw [earlier] at lookedUp
    exact normal other state message (lookup_of_erase lookedUp))
  refine ⟨stored, recording.clientId, ?_⟩
  have restored : account.transactions.insert stored.transactionId (.normal, stored) = transactions := by
    rw [earlier, recording.transactionId, insert_erase found]
  obtain deposit | withdrawal := recording.records
  · exact (dispatch_transactions (by rw [InputMessage.call, deposit])
      (.deposit unlocked recording.positive fresh)).trans restored
  · refine (dispatch_transactions (by rw [InputMessage.call, withdrawal])
      (.withdrawal unlocked recording.positive fresh ?_)).trans restored
    -- The deposits cover this withdrawal with the others.
    have all := admissible.covered
    have deposits := Transactions.amountOfType_erase found .deposit
    have withdrawals := Transactions.amountOfType_erase found .withdrawal
    simp only [Transactions.typed, withdrawal, reduceCtorEq, if_true, if_false] at deposits withdrawals
    change account.available = Transactions.amountOfType account.transactions .deposit -
      Transactions.amountOfType account.transactions .withdrawal at available
    rw [earlier] at available
    omega

theorem exists_comesFrom_recorded (admissible : transactions.Admissible clientId)
    (normal : ∀ id state stored, transactions.lookup id = some (state, stored) → state = .normal)
    (found : transactions.lookup id = some (.normal, stored)) :
    ∃ earlier, ComesFrom clientId transactions earlier := by
  -- The withdrawals came last.
  by_cases withdrawal : ∃ id stored, transactions.lookup id = some (.normal, stored) ∧
      stored.transactionType = .withdrawal
  · obtain ⟨id, stored, found, typed⟩ := withdrawal
    refine ⟨_, comesFrom_recorded admissible normal found ?_⟩
    have covered := admissible.covered
    have positive := (admissible.recordings id _ stored found).positive
    have deposits := Transactions.amountOfType_erase found .deposit
    have withdrawals := Transactions.amountOfType_erase found .withdrawal
    simp only [Transactions.typed, typed, reduceCtorEq, if_true, if_false] at deposits withdrawals
    omega
  · refine ⟨_, comesFrom_recorded admissible normal found ?_⟩
    have withdrawals : Transactions.amountOfType (transactions.erase id) .withdrawal = 0 := by
      refine sumOver_eq_zero ?_
      rintro other ⟨state, message⟩ lookedUp
      have before := lookup_of_erase lookedUp
      obtain rfl := normal other state message before
      exact if_neg fun typed => withdrawal ⟨other, message, before, typed⟩
    rw [withdrawals]
    refine sumOver_nonneg ?_
    rintro other ⟨state, message⟩ lookedUp
    have positive := (admissible.recordings other state message (lookup_of_erase lookedUp)).positive
    simp only [Transactions.typed]
    split <;> omega

theorem exists_comesFrom (admissible : transactions.Admissible clientId) :
    transactions = ∅ ∨ ∃ earlier, ComesFrom clientId transactions earlier := by
  -- The chargeback was last, before it the resolves, the disputes and the recordings.
  by_cases charged : ∃ id stored, transactions.lookup id = some (.chargeback, stored)
  · obtain ⟨id, stored, found⟩ := charged
    exact .inr ⟨_, comesFrom_moved .disputed admissible found rfl fun other message lookedUp =>
      admissible.once other id message stored lookedUp found⟩
  simp only [not_exists] at charged
  by_cases resolved : ∃ id stored, transactions.lookup id = some (.resolved, stored)
  · obtain ⟨id, stored, found⟩ := resolved
    exact .inr ⟨_, comesFrom_moved .disputed admissible found rfl fun other message lookedUp =>
      absurd lookedUp (charged other message)⟩
  by_cases disputed : ∃ id stored, transactions.lookup id = some (.disputed, stored)
  · obtain ⟨id, stored, found⟩ := disputed
    exact .inr ⟨_, comesFrom_moved .normal admissible found rfl fun other message lookedUp =>
      absurd lookedUp (charged other message)⟩
  simp only [not_exists] at resolved disputed
  have normal : ∀ id state stored,
      transactions.lookup id = some (state, stored) → state = .normal := by
    intro id state stored found
    cases state with
    | normal => rfl
    | disputed => exact absurd found (disputed id stored)
    | resolved => exact absurd found (resolved id stored)
    | chargeback => exact absurd found (charged id stored)
  by_cases recorded : ∃ id stored, transactions.lookup id = some (.normal, stored)
  · obtain ⟨id, stored, found⟩ := recorded
    exact .inr (exists_comesFrom_recorded admissible normal found)
  · left
    apply Finmap.ext_lookup
    intro id
    rw [Finmap.lookup_empty]
    cases found : transactions.lookup id with
    | none => rfl
    | some entry =>
      obtain ⟨state, stored⟩ := entry
      obtain rfl := normal id state stored found
      exact absurd ⟨id, stored, found⟩ recorded

end Last

/-! ## Exactness -/

theorem exists_transactions {clientId : ClientId} {transactions : Transactions}
    (admissible : transactions.Admissible clientId) :
    ∃ messages, (∀ msg ∈ messages, msg.clientId = clientId) ∧
      (after dispatch (new clientId) messages).transactions = transactions := by
  refine @exists_after_of_predecessors _ _ _ dispatch _ Account.transactions _ Transactions.rank _ _ ?_ _
    admissible
  intro target admissible
  obtain rfl | ⟨earlier, earlierAdmissible, lower, step⟩ := exists_comesFrom admissible
  · exact .inl rfl
  · exact .inr ⟨earlier, earlierAdmissible, lower, fun messages own reached =>
      step _ (stands_after own) reached⟩

/-- The accounts that a client's messages can lead to are exactly those that stand for it. -/
theorem reachable_iff_stands (clientId : ClientId) (account : Account) :
    (∃ messages, (∀ msg ∈ messages, msg.clientId = clientId) ∧
      (after dispatch (new clientId) messages).released = account.released) ↔
    account.Stands clientId := by
  constructor
  · rintro ⟨messages, own, same⟩
    exact (stands_after own).of_released same
  · intro stands
    obtain ⟨messages, own, same⟩ := exists_transactions stands.admissible
    exact ⟨messages, own, (stands_after own).eq stands same⟩

end Account

end PaymentsEngine
