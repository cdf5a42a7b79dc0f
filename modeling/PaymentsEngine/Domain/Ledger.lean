import Mathlib.Logic.Relation
import PaymentsEngine.Library.Book
import PaymentsEngine.Domain.Lifecycle

/-! # The account as a book

The purpose of an account: it is a book in which deposits are credits and withdrawals
are debits, and its three balances are the funds of that book.  Every call that a
message's own type selects is a step of the book, so the balances are always the sums
over the recorded transactions and the withdrawals never exceed the deposits.
-/

namespace PaymentsEngine

open PaymentsEngine.Library PaymentsEngine.Library.Machine

namespace Account

/-! ## Representation -/

/-- Which way a recorded message moved money. -/
def direction : TransactionType → Option Direction
  | .deposit => some .credit
  | .withdrawal => some .debit
  | .dispute | .resolve | .chargeback => none

def status : TransactionState → Status
  | .normal => .standing
  | .disputed => .disputed
  | .resolved => .settled
  | .chargeback => .reversed

/-- What the book keeps of a recorded transaction. -/
def recorded (entry : TransactionState × InputMessage) : Option Direction × Status × Int :=
  (direction entry.2.transactionType, status entry.1, entry.2.amount)

def booked (entry : BookEntry Int) : Option Direction × Status × Int :=
  (some entry.direction, entry.status, entry.amount)

/-- The account records the entries of the book, and its balances are the funds. -/
structure Represents (account : Account) (book : Book TransactionId Int) : Prop where
  entries : ∀ id, (account.transactions.lookup id).map recorded = (book.entries.lookup id).map booked
  available : account.available = book.available
  held : account.held = book.held
  total : account.total = book.total

theorem represents_new (clientId : ClientId) : (new clientId).Represents Book.empty where
  entries := fun _ => rfl
  available := rfl
  held := rfl
  total := rfl

theorem Represents.logged {self : Account} {book : Book TransactionId Int}
    (represents : self.Represents book) (msg : InputMessage) : (self.logged msg).Represents book where
  entries := represents.entries
  available := represents.available
  held := represents.held
  total := represents.total

theorem Represents.fresh {self : Account} {book : Book TransactionId Int}
    (represents : self.Represents book) {id : TransactionId} (fresh : id ∉ self.transactions) :
    id ∉ book.entries := by
  have same := represents.entries id
  rw [Finmap.lookup_eq_none.mpr fresh] at same
  exact Finmap.lookup_eq_none.mp (Option.map_eq_none_iff.mp same.symm)

theorem Represents.found {self : Account} {book : Book TransactionId Int}
    (represents : self.Represents book) {id : TransactionId} {state : TransactionState}
    {stored : InputMessage} (found : self.transactions.lookup id = some (state, stored)) :
    ∃ entry, book.entries.lookup id = some entry ∧
      some entry.direction = direction stored.transactionType ∧ entry.status = status state ∧
      entry.amount = stored.amount := by
  have same := represents.entries id
  rw [found] at same
  obtain ⟨entry, foundBook, equal⟩ := Option.map_eq_some_iff.mp same.symm
  exact ⟨entry, foundBook, by simpa [booked, recorded] using equal⟩

/-- Storing the same transaction on both sides keeps the entries equal. -/
theorem entries_insert {self next : Account} {book : Book TransactionId Int}
    (represents : self.Represents book) {id : TransactionId}
    {entry : TransactionState × InputMessage} {bookEntry : BookEntry Int}
    (inserted : next.transactions = self.transactions.insert id entry)
    (same : recorded entry = booked bookEntry) (other : TransactionId) :
    (next.transactions.lookup other).map recorded =
      ((book.entries.insert id bookEntry).lookup other).map booked := by
  rw [inserted, lookup_insert_eq, lookup_insert_eq]
  split
  · exact congrArg some same
  · exact represents.entries other

/-- Moving a transaction is moving its entry. -/
theorem entries_restate {self next : Account} {book : Book TransactionId Int}
    (represents : self.Represents book) {msg stored : InputMessage} {transition : ExecuteTransition}
    {entry : BookEntry Int} (moved : Moved self next msg transition stored)
    (foundBook : book.entries.lookup msg.transactionId = some entry)
    (way : some entry.direction = direction stored.transactionType)
    (amount : entry.amount = stored.amount) (other : TransactionId) :
    (next.transactions.lookup other).map recorded =
      ((book.restate foundBook (status transition.toState)).entries.lookup other).map booked := by
  apply entries_insert represents moved.transactions
  simp [recorded, booked, BookEntry.withStatus, way, amount]

/-- Every accepted call that a message's own type selects is a step of the book. -/
theorem Represents.accepts {self next : Account} {book : Book TransactionId Int}
    {msg : InputMessage} (represents : self.Represents book) (accepts : self.Accepts msg.call next) :
    ∃ nextBook, book.Step nextBook ∧ next.Represents nextBook := by
  have available := represents.available
  have held := represents.held
  have total := represents.total
  -- The operation is that of the message's own type: a recorded deposit is a credit.
  generalize called : msg.call = call at accepts
  cases accepts with
  | deposit unlocked positive fresh =>
    obtain ⟨typed, rfl⟩ := Call.mk.inj called
    refine ⟨_, .credit (represents.fresh fresh) positive, ?_⟩
    have heldNext := Book.held_credit (represents.fresh fresh) positive
    have totalNext := Book.total_credit (represents.fresh fresh) positive
    constructor
    · exact entries_insert represents rfl (by rw [recorded, typed]; rfl)
    · rw [record_available, Book.available, heldNext, totalNext, available, Book.available]; omega
    · rw [record_held, heldNext, held]
    · rw [record_total, totalNext, total]
  | withdrawal unlocked positive fresh covered =>
    obtain ⟨typed, rfl⟩ := Call.mk.inj called
    have coveredBook : msg.amount ≤ book.available := available ▸ covered
    refine ⟨_, .debit (represents.fresh fresh) positive coveredBook, ?_⟩
    have heldNext := Book.held_debit (represents.fresh fresh) positive coveredBook
    have totalNext := Book.total_debit (represents.fresh fresh) positive coveredBook
    constructor
    · exact entries_insert represents rfl (by rw [recorded, typed]; rfl)
    · rw [record_available, Book.available, heldNext, totalNext, available, Book.available]; omega
    · rw [record_held, heldNext, held]
    · rw [record_total, totalNext, total, Int.sub_eq_add_neg]
  | @dispute _ stored unlocked found =>
    obtain ⟨entry, foundBook, way, standing, amount⟩ := represents.found found
    refine ⟨_, .dispute foundBook standing, ?_⟩
    have heldNext := Book.held_dispute foundBook standing
    have totalNext := Book.total_dispute foundBook standing
    constructor
    · exact entries_restate represents (moved_withDispute unlocked found) foundBook way amount
    · rw [withDispute_available, Book.available, heldNext, totalNext, available, Book.available, amount]
      omega
    · rw [withDispute_held, heldNext, held, amount]
    · rw [withDispute_total, totalNext, total]
  | @resolve _ stored unlocked found =>
    obtain ⟨entry, foundBook, way, disputed, amount⟩ := represents.found found
    refine ⟨_, .settle foundBook disputed, ?_⟩
    have heldNext := Book.held_settle foundBook disputed
    have totalNext := Book.total_settle foundBook disputed
    constructor
    · exact entries_restate represents (moved_withResolve unlocked found) foundBook way amount
    · rw [withResolve_available, Book.available, heldNext, totalNext, available, Book.available, amount]
      omega
    · rw [withResolve_held, heldNext, held, amount]
    · rw [withResolve_total, totalNext, total]
  | @chargeback _ stored unlocked found =>
    obtain ⟨entry, foundBook, way, disputed, amount⟩ := represents.found found
    refine ⟨_, .reverse foundBook disputed, ?_⟩
    have heldNext := Book.held_reverse foundBook disputed
    have totalNext := Book.total_reverse foundBook disputed
    constructor
    · exact entries_restate represents (moved_withChargeback unlocked found) foundBook way amount
    · rw [withChargeback_available, Book.available, heldNext, totalNext, available, Book.available,
        amount]
      omega
    · rw [withChargeback_held, heldNext, held, amount]
    · rw [withChargeback_total, totalNext, total, amount]

/-! ## Sums over the recorded transactions -/

/-- The sum of the stored amounts of the recorded messages of a type. -/
def amountOfType (self : Account) (transactionType : TransactionType) : Int :=
  sumOver (fun entry => if entry.2.transactionType = transactionType then entry.2.amount else 0)
    self.transactions

/-- The sum of the stored amounts of the transactions recorded in a state. -/
def amountInState (self : Account) (state : TransactionState) : Int :=
  sumOver (fun entry => if entry.1 = state then entry.2.amount else 0) self.transactions

/-- The sum of the amounts of the messages of a type. -/
def amountOfMessages (transactionType : TransactionType) (messages : List InputMessage) : Int :=
  ((messages.filter fun msg => msg.transactionType = transactionType).map InputMessage.amount).sum

theorem direction_eq_credit (transactionType : TransactionType) :
    direction transactionType = some .credit ↔ transactionType = .deposit := by
  cases transactionType <;> simp [direction]

theorem direction_eq_debit (transactionType : TransactionType) :
    direction transactionType = some .debit ↔ transactionType = .withdrawal := by
  cases transactionType <;> simp [direction]

theorem status_inj {first second : TransactionState} : status first = status second ↔ first = second := by
  cases first <;> cases second <;> simp [status]

theorem Represents.amountOfType_eq {self : Account} {book : Book TransactionId Int}
    (represents : self.Represents book) (transactionType : TransactionType) (way : Direction)
    (same : ∀ other, direction other = some way ↔ other = transactionType) :
    self.amountOfType transactionType =
      sumOver (fun entry => if entry.direction = way then entry.amount else 0) book.entries := by
  let weight := fun shape : Option Direction × Status × Int =>
    if shape.1 = some way then shape.2.2 else 0
  have left : (fun entry : TransactionState × InputMessage =>
      if entry.2.transactionType = transactionType then entry.2.amount else 0) = weight ∘ recorded := by
    funext entry
    simp only [weight, Function.comp_apply, recorded, same]
  have right : (fun entry : BookEntry Int => if entry.direction = way then entry.amount else 0) =
      weight ∘ booked := by
    funext entry
    simp only [weight, Function.comp_apply, booked, Option.some.injEq]
  rw [amountOfType, left, right]
  exact sumOver_congr weight represents.entries

theorem Represents.amountInState_eq {self : Account} {book : Book TransactionId Int}
    (represents : self.Represents book) (state : TransactionState) :
    self.amountInState state = sumOver (BookEntry.inStatus (status state)) book.entries := by
  let weight := fun shape : Option Direction × Status × Int =>
    if shape.2.1 = status state then shape.2.2 else 0
  have left : (fun entry : TransactionState × InputMessage =>
      if entry.1 = state then entry.2.amount else 0) = weight ∘ recorded := by
    funext entry
    simp only [weight, Function.comp_apply, recorded, status_inj]
  rw [amountInState, left]
  exact sumOver_congr weight represents.entries

theorem Represents.credits_eq {self : Account} {book : Book TransactionId Int}
    (represents : self.Represents book) : book.credits = self.amountOfType .deposit :=
  (represents.amountOfType_eq .deposit .credit direction_eq_credit).symm

theorem Represents.debits_eq {self : Account} {book : Book TransactionId Int}
    (represents : self.Represents book) : book.debits = self.amountOfType .withdrawal :=
  (represents.amountOfType_eq .withdrawal .debit direction_eq_debit).symm

theorem Represents.held_eq {self : Account} {book : Book TransactionId Int}
    (represents : self.Represents book) : book.held = self.amountInState .disputed :=
  (represents.amountInState_eq .disputed).symm

theorem Represents.reversed_eq {self : Account} {book : Book TransactionId Int}
    (represents : self.Represents book) : book.reversed = self.amountInState .chargeback :=
  (represents.amountInState_eq .chargeback).symm

/-! ## Runs -/

theorem amountOfMessages_append (transactionType : TransactionType)
    (first second : List InputMessage) :
    amountOfMessages transactionType (first ++ second) =
      amountOfMessages transactionType first + amountOfMessages transactionType second := by
  simp [amountOfMessages]

theorem amountOfMessages_singleton (transactionType : TransactionType) (msg : InputMessage) :
    amountOfMessages transactionType [msg] =
      if msg.transactionType = transactionType then msg.amount else 0 := by
  by_cases typed : msg.transactionType = transactionType <;> simp [amountOfMessages, typed]

theorem Recorded.amountOfType_eq {self next : Account} {msg : InputMessage}
    (recorded : Recorded self next msg) (transactionType : TransactionType) :
    next.amountOfType transactionType =
      self.amountOfType transactionType + amountOfMessages transactionType [msg] := by
  rw [amountOfMessages_singleton, amountOfType, recorded.transactions,
    sumOver_insert_fresh _ recorded.fresh, Int.add_comm, amountOfType]

theorem Moved.amountOfType_eq {self next : Account} {msg stored : InputMessage}
    {transition : ExecuteTransition} (moved : Moved self next msg transition stored)
    {transactionType : TransactionType} (otherType : msg.transactionType ≠ transactionType) :
    next.amountOfType transactionType =
      self.amountOfType transactionType + amountOfMessages transactionType [msg] := by
  rw [amountOfMessages_singleton, if_neg otherType, Int.add_zero, amountOfType, moved.transactions]
  exact sumOver_insert_same _ moved.found rfl

/-- An accepted message adds its amount to the recorded amounts of its type. -/
theorem amountOfType_accepts {self next : Account} {msg : InputMessage}
    (accepts : self.Accepts msg.call next) {transactionType : TransactionType}
    (records : transactionType = .deposit ∨ transactionType = .withdrawal) :
    next.amountOfType transactionType =
      self.amountOfType transactionType + amountOfMessages transactionType [msg] := by
  generalize called : msg.call = call at accepts
  cases accepts with
  | deposit unlocked positive fresh | withdrawal unlocked positive fresh =>
    obtain ⟨_, rfl⟩ := Call.mk.inj called
    exact (recorded_record _ unlocked positive fresh).amountOfType_eq transactionType
  | dispute unlocked found =>
    obtain ⟨typed, rfl⟩ := Call.mk.inj called
    apply (moved_withDispute unlocked found).amountOfType_eq
    obtain rfl | rfl := records <;> simp [typed]
  | resolve unlocked found =>
    obtain ⟨typed, rfl⟩ := Call.mk.inj called
    apply (moved_withResolve unlocked found).amountOfType_eq
    obtain rfl | rfl := records <;> simp [typed]
  | chargeback unlocked found =>
    obtain ⟨typed, rfl⟩ := Call.mk.inj called
    apply (moved_withChargeback unlocked found).amountOfType_eq
    obtain rfl | rfl := records <;> simp [typed]

/-- A book that operations can reach represents the account, and the accepted deposits and
    withdrawals are recorded in it. -/
def Kept (account : Account) (done : List InputMessage) : Prop :=
  account.WellFormed ∧
    (∃ book, Relation.ReflTransGen Book.Step Book.empty book ∧ account.Represents book) ∧
    account.amountOfType .deposit = amountOfMessages .deposit done ∧
    account.amountOfType .withdrawal = amountOfMessages .withdrawal done

theorem kept_after (clientId : ClientId) (messages : List InputMessage) :
    (after dispatch (new clientId) messages).Kept
      (accepted dispatch Except.isOk (new clientId) messages) := by
  apply accepted_calls_invariant InputMessage.call
  · rintro account done msg ⟨wellFormed, ⟨book, reached, represents⟩, deposits, withdrawals⟩
    exact ⟨wellFormed.logged msg, ⟨book, reached, represents.logged msg⟩, deposits, withdrawals⟩
  · rintro account done msg next ⟨wellFormed, ⟨book, reached, represents⟩, deposits, withdrawals⟩
      accepts
    obtain ⟨nextBook, step, nextRepresents⟩ := represents.accepts accepts
    refine ⟨wellFormed.accepts accepts, ⟨nextBook, reached.tail step, nextRepresents⟩, ?_, ?_⟩
    · rw [amountOfType_accepts accepts (.inl rfl), deposits, amountOfMessages_append]
    · rw [amountOfType_accepts accepts (.inr rfl), withdrawals, amountOfMessages_append]
  · exact ⟨wellFormed_new clientId, ⟨_, .refl, represents_new clientId⟩, rfl, rfl⟩

/-- The balances of an account as sums over what it records, and the recorded deposits and
    withdrawals as the accepted ones. -/
structure LedgerLaw (account : Account) (done : List InputMessage) : Prop where
  held : account.held = account.amountInState .disputed
  total : account.total =
    account.amountOfType .deposit - account.amountOfType .withdrawal -
      account.amountInState .chargeback
  available : account.available =
    account.amountOfType .deposit - account.amountOfType .withdrawal -
      account.amountInState .disputed - account.amountInState .chargeback
  deposits : account.amountOfType .deposit = amountOfMessages .deposit done
  withdrawals : account.amountOfType .withdrawal = amountOfMessages .withdrawal done

/-- The ledger law holds after every run of messages. -/
theorem ledger_law (clientId : ClientId) (messages : List InputMessage) :
    LedgerLaw (after dispatch (new clientId) messages)
      (accepted dispatch Except.isOk (new clientId) messages) := by
  obtain ⟨_, ⟨book, _, represents⟩, deposits, withdrawals⟩ := kept_after clientId messages
  have total := represents.total
  have available := represents.available
  rw [Book.total, represents.credits_eq, represents.debits_eq, represents.reversed_eq] at total
  rw [Book.available, ← represents.total, represents.held_eq, total] at available
  exact ⟨by rw [represents.held, represents.held_eq], total, by omega, deposits, withdrawals⟩

/-- The amount charged back is that of the only transaction charged back. -/
theorem WellFormed.amountInState_chargeback {self : Account} (wellFormed : self.WellFormed)
    {id : TransactionId} {stored : InputMessage}
    (found : self.transactions.lookup id = some (.chargeback, stored)) :
    self.amountInState .chargeback = stored.amount := by
  have members : ∀ other, other ∈ self.chargebacks ↔ self.stateOf other = some .chargeback :=
    wellFormed.sets .chargeback
  have member : id ∈ self.chargebacks := by rw [members, stateOf, found]; rfl
  have locked : self.locked = true := by
    by_contra unlocked
    rw [wellFormed.unlockedSet (by simpa using unlocked)] at member
    cases member
  obtain ⟨only, single⟩ := wellFormed.lockedSet locked
  rw [amountInState, sumOver_eq_weight found, if_pos rfl]
  intro other entry different foundOther
  rw [if_neg]
  intro charged
  have otherMember : other ∈ self.chargebacks := by
    rw [members, stateOf, foundOther, Option.map_some, charged]
  rw [single, Finset.mem_singleton] at member otherMember
  exact different (otherMember.trans member.symm)

theorem amountInState_none {self : Account} {state : TransactionState}
    (none : ∀ id, self.stateOf id ≠ some state) : self.amountInState state = 0 := by
  apply sumOver_eq_zero
  intro id entry found
  rw [if_neg]
  intro inState
  apply none id
  rw [stateOf, found, Option.map_some, inState]

/-- What was put in covers what was taken out, and the total with the charged back amount is not
    negative. -/
structure Solvent (account : Account) (done : List InputMessage) : Prop where
  covered : amountOfMessages .withdrawal done ≤ amountOfMessages .deposit done
  withoutChargeback : (∀ id, account.stateOf id ≠ some .chargeback) → 0 ≤ account.total
  withChargeback : ∀ id stored, account.transactions.lookup id = some (.chargeback, stored) →
    0 ≤ account.total + stored.amount

theorem solvent_after (clientId : ClientId) (messages : List InputMessage) :
    Solvent (after dispatch (new clientId) messages)
      (accepted dispatch Except.isOk (new clientId) messages) := by
  obtain ⟨wellFormed, ⟨book, _, represents⟩, deposits, withdrawals⟩ := kept_after clientId messages
  have nonneg := book.total_add_reversed_nonneg
  rw [← represents.total, represents.reversed_eq] at nonneg
  constructor
  · rw [← deposits, ← withdrawals, ← represents.credits_eq, ← represents.debits_eq]
    exact book.solvent
  · intro none
    rwa [amountInState_none none, Int.add_zero] at nonneg
  · intro id stored found
    rwa [wellFormed.amountInState_chargeback found] at nonneg

end Account

end PaymentsEngine
