import PaymentsEngine.Service.Accounts
import PaymentsEngine.Spec.PaymentsSpec

/-! # The engine refines the specification

The abstraction forgets the id sets, the history and the messages but their amounts,
and reads a missing account as the empty one.  A message that the engine accepts is
the action of its type, a message that it refuses is a stuttering step.
-/

namespace PaymentsEngine.Refinement

open PaymentsEngine.Library PaymentsEngine.Library.Machine
open PaymentsEngine.PaymentsSpec (State AccountState TxState TxRecord Action Constants)

/-! ## Abstraction -/

/-- The client that an integer of the specification stands for. -/
def clientKey (clientId : Int) : Option ClientId :=
  let key := UInt16.ofNat clientId.toNat
  if clientId = key.toNat then some key else none

/-- The transaction that an integer of the specification stands for. -/
def txKey (txId : Int) : Option TransactionId :=
  let key := UInt32.ofNat txId.toNat
  if txId = key.toNat then some key else none

def absState : TransactionState → TxState
  | .normal => .normal
  | .disputed => .disputed
  | .resolved => .resolved
  | .chargeback => .chargeback

def absAccount (account : Account) : AccountState where
  available := account.available
  held := account.held
  total := account.total
  locked := account.locked

def absRecord (account : Account) (key : TransactionId) : TxRecord :=
  match account.transactions.lookup key with
  | some (state, message) => { exists' := true, amount := message.amount, state := absState state }
  | none => PaymentsSpec.noTx

/-- The state of the specification that the accounts map stands for. -/
def abstraction (accounts : Accounts) : State where
  accounts := fun clientId =>
    match (clientKey clientId).bind accounts.lookup with
    | some account => absAccount account
    | none => PaymentsSpec.emptyAccount
  txRecords := fun (clientId, txId) =>
    match (clientKey clientId).bind accounts.lookup, txKey txId with
    | some account, some key => absRecord account key
    | _, _ => PaymentsSpec.noTx

/-- The action that a message asks for. -/
def action (msg : InputMessage) : Action :=
  let clientId := (msg.clientId.toNat : Int)
  let txId := (msg.transactionId.toNat : Int)
  match msg.transactionType with
  | .deposit => PaymentsSpec.deposit clientId txId msg.amount
  | .withdrawal => PaymentsSpec.withdrawal clientId txId msg.amount
  | .dispute => PaymentsSpec.dispute clientId txId
  | .resolve => PaymentsSpec.resolve clientId txId
  | .chargeback => PaymentsSpec.chargeback clientId txId

/-! ## The abstraction of one entry -/

theorem clientKey_eq_some {clientId : Int} {key : ClientId} :
    clientKey clientId = some key ↔ clientId = key.toNat := by
  unfold clientKey
  constructor
  · intro decoded
    dsimp only at decoded
    split at decoded
    next inRange => cases decoded; exact inRange
    next => cases decoded
  · rintro rfl
    rw [Int.toNat_natCast, UInt16.ofNat_toNat, if_pos rfl]

theorem txKey_eq_some {txId : Int} {key : TransactionId} : txKey txId = some key ↔ txId = key.toNat := by
  unfold txKey
  constructor
  · intro decoded
    dsimp only at decoded
    split at decoded
    next inRange => cases decoded; exact inRange
    next => cases decoded
  · rintro rfl
    rw [Int.toNat_natCast, UInt32.ofNat_toNat, if_pos rfl]

/-- An integer that decodes to no client is not the number of one. -/
theorem ne_of_clientKey_none {clientId : Int} (decoded : clientKey clientId = none)
    (key : ClientId) : clientId ≠ key.toNat := by
  intro equal
  rw [clientKey_eq_some.mpr equal] at decoded
  cases decoded

theorem ne_of_txKey_none {txId : Int} (decoded : txKey txId = none) (key : TransactionId) :
    txId ≠ key.toNat := by
  intro equal
  rw [txKey_eq_some.mpr equal] at decoded
  cases decoded

theorem absAccount_new (clientId : ClientId) :
    absAccount (Account.new clientId) = PaymentsSpec.emptyAccount := rfl

theorem absRecord_new (clientId : ClientId) (key : TransactionId) :
    absRecord (Account.new clientId) key = PaymentsSpec.noTx := rfl

/-- A missing account is abstracted like a new one. -/
theorem abstraction_accounts (accounts : Accounts) (clientId : ClientId) :
    (abstraction accounts).accounts clientId.toNat = absAccount (accounts.entry clientId) := by
  simp only [abstraction, clientKey_eq_some.mpr rfl, Option.bind_some, Accounts.entry]
  cases accounts.lookup clientId with
  | none => exact (absAccount_new clientId).symm
  | some account => rfl

theorem abstraction_txRecords (accounts : Accounts) (clientId : ClientId) (key : TransactionId) :
    (abstraction accounts).txRecords (clientId.toNat, key.toNat) =
      absRecord (accounts.entry clientId) key := by
  simp only [abstraction, clientKey_eq_some.mpr rfl, txKey_eq_some.mpr rfl, Option.bind_some,
    Accounts.entry]
  cases accounts.lookup clientId with
  | none => exact (absRecord_new clientId key).symm
  | some account => rfl

theorem abstraction_noTx (accounts : Accounts) {clientId txId : Int}
    (unknown : clientKey clientId = none ∨ txKey txId = none) :
    (abstraction accounts).txRecords (clientId, txId) = PaymentsSpec.noTx := by
  obtain unknown | unknown := unknown
  · simp only [abstraction, unknown, Option.bind_none]
  · cases found : (clientKey clientId).bind accounts.lookup <;> simp only [abstraction, unknown, found]

/-- Storing an account that differs from the entry in one transaction assigns that account and
    that record. -/
theorem abstraction_insert (accounts : Accounts) (clientId : ClientId) (txId : TransactionId)
    (next : Account) (others : ∀ key, key ≠ txId →
      absRecord next key = absRecord (accounts.entry clientId) key) :
    abstraction (accounts.insert clientId next) =
      (abstraction accounts).set clientId.toNat txId.toNat (absAccount next)
        (absRecord next txId) := by
  have entries : ∀ other, Accounts.entry (accounts.insert clientId next) other =
      if other = clientId then next else accounts.entry other := by
    intro other
    rw [Accounts.entry, lookup_insert_eq]
    split <;> rfl
  have sameAccounts : (abstraction (accounts.insert clientId next)).accounts =
      Function.update (abstraction accounts).accounts clientId.toNat (absAccount next) := by
    funext other
    rw [Function.update_apply]
    -- The specification's ids are all integers, so both sides also have to agree where no
    -- client of the engine stands behind the integer.
    cases decoded : clientKey other with
    | none =>
      have different := ne_of_clientKey_none decoded clientId
      rw [if_neg different]
      simp only [abstraction, decoded, Option.bind_none]
    | some key =>
      obtain rfl := clientKey_eq_some.mp decoded
      rw [abstraction_accounts, abstraction_accounts, entries]
      simp only [Int.natCast_inj, UInt16.toNat_inj]
      split <;> rfl
  have sameRecords : (abstraction (accounts.insert clientId next)).txRecords =
      Function.update (abstraction accounts).txRecords (clientId.toNat, txId.toNat)
        (absRecord next txId) := by
    funext ⟨other, otherTx⟩
    rw [Function.update_apply]
    cases decoded : clientKey other with
    | none =>
      have different := ne_of_clientKey_none decoded clientId
      rw [if_neg (fun equal => different (congrArg Prod.fst equal)),
        abstraction_noTx _ (.inl decoded), abstraction_noTx _ (.inl decoded)]
    | some client =>
      obtain rfl := clientKey_eq_some.mp decoded
      cases decodedTx : txKey otherTx with
      | none =>
        have different := ne_of_txKey_none decodedTx txId
        rw [if_neg (fun equal => different (congrArg Prod.snd equal)),
          abstraction_noTx _ (.inr decodedTx), abstraction_noTx _ (.inr decodedTx)]
      | some key =>
        obtain rfl := txKey_eq_some.mp decodedTx
        rw [abstraction_txRecords, abstraction_txRecords, entries]
        simp only [Prod.mk.injEq, Int.natCast_inj, UInt16.toNat_inj, UInt32.toNat_inj]
        by_cases sameClient : client = clientId
        · -- Within the stored account only the record of `txId` may differ.
          subst sameClient
          by_cases sameTx : key = txId
          · subst sameTx; simp
          · simp [sameTx, others key sameTx]
        · simp [sameClient]
  rw [PaymentsSpec.State.set, ← sameAccounts, ← sameRecords]

/-! ## One message -/

theorem absRecord_insert {self next : Account} {txId : TransactionId} {state : TransactionState}
    {stored : InputMessage}
    (inserted : next.transactions = self.transactions.insert txId (state, stored))
    (key : TransactionId) :
    absRecord next key =
      if key = txId then { exists' := true, amount := stored.amount, state := absState state }
      else absRecord self key := by
  rw [absRecord, inserted, lookup_insert_eq]
  by_cases same : key = txId
  · simp only [same, if_true]
  · simp only [same, if_false, absRecord]

theorem absRecord_fresh {self : Account} {key : TransactionId} :
    (absRecord self key).exists' = false ↔ key ∉ self.transactions := by
  rw [absRecord, ← Finmap.lookup_eq_none]
  cases self.transactions.lookup key <;> simp [PaymentsSpec.noTx]

theorem absRecord_found {self : Account} {key : TransactionId} {state : TransactionState}
    {stored : InputMessage} (found : self.transactions.lookup key = some (state, stored)) :
    absRecord self key = { exists' := true, amount := stored.amount, state := absState state } := by
  rw [absRecord, found]

theorem abstraction_insert_entry {accounts : Accounts} {clientId : ClientId} {txId : TransactionId}
    {next : Account} {state : TransactionState} {stored : InputMessage}
    (inserted : next.transactions =
      (accounts.entry clientId).transactions.insert txId (state, stored)) :
    abstraction (accounts.insert clientId next) =
      (abstraction accounts).set clientId.toNat txId.toNat (absAccount next)
        { exists' := true, amount := stored.amount, state := absState state } := by
  have records := absRecord_insert inserted
  rw [abstraction_insert accounts clientId txId next, records txId, if_pos rfl]
  intro key different
  rw [records key, if_neg different]

/-- An accepted message is the action of its type. -/
theorem action_of_accepts {accounts : Accounts} {msg : InputMessage} {next : Account}
    (accepts : (accounts.entry msg.clientId).Accepts msg.call next) :
    (action msg).Takes (abstraction accounts)
      (abstraction (accounts.insert msg.clientId next)) := by
  have acct := abstraction_accounts accounts msg.clientId
  have record := abstraction_txRecords accounts msg.clientId msg.transactionId
  -- The call's type fixes the action; each case checks its guard, then its post-state.
  generalize called : msg.call = call at accepts
  cases accepts with
  | deposit unlocked positive fresh =>
    obtain ⟨typed, rfl⟩ := Call.mk.inj called
    have unrecorded := absRecord_fresh.mpr fresh
    rw [abstraction_insert_entry rfl]
    simp only [action, typed]
    constructor
    · rw [PaymentsSpec.deposit_guard, acct, record]
      exact ⟨positive, unlocked, unrecorded⟩
    · simp [PaymentsSpec.deposit, acct, absAccount, absState]
  | withdrawal unlocked positive fresh covered =>
    obtain ⟨typed, rfl⟩ := Call.mk.inj called
    have unrecorded := absRecord_fresh.mpr fresh
    rw [abstraction_insert_entry rfl]
    simp only [action, typed]
    constructor
    · rw [PaymentsSpec.withdrawal_guard, acct, record]
      exact ⟨positive, unlocked, unrecorded, covered⟩
    · simp [PaymentsSpec.withdrawal, acct, absAccount, absState, Int.sub_eq_add_neg]
  | dispute unlocked found =>
    obtain ⟨typed, rfl⟩ := Call.mk.inj called
    rw [absRecord_found found] at record
    rw [abstraction_insert_entry (Account.moved_withDispute unlocked found).transactions]
    simp only [action, typed]
    constructor
    · rw [PaymentsSpec.dispute_guard, acct, record]
      exact ⟨unlocked, rfl, rfl⟩
    · simp [PaymentsSpec.dispute, acct, record, absAccount, absState]
  | resolve unlocked found =>
    obtain ⟨typed, rfl⟩ := Call.mk.inj called
    rw [absRecord_found found] at record
    rw [abstraction_insert_entry (Account.moved_withResolve unlocked found).transactions]
    simp only [action, typed]
    constructor
    · rw [PaymentsSpec.resolve_guard, acct, record]
      exact ⟨unlocked, rfl, rfl⟩
    · simp [PaymentsSpec.resolve, acct, record, absAccount, absState]
  | chargeback unlocked found =>
    obtain ⟨typed, rfl⟩ := Call.mk.inj called
    rw [absRecord_found found] at record
    rw [abstraction_insert_entry (Account.moved_withChargeback unlocked found).transactions]
    simp only [action, typed]
    constructor
    · rw [PaymentsSpec.chargeback_guard, acct, record]
      exact ⟨unlocked, rfl, rfl⟩
    · simp [PaymentsSpec.chargeback, acct, record, absAccount, absState]

/-- A record that exists in a state is a transaction recorded in that state. -/
theorem found_of_absRecord {self : Account} {key : TransactionId} (state : TransactionState)
    (recorded : (absRecord self key).exists' = true)
    (inState : (absRecord self key).state = absState state) :
    ∃ stored, self.transactions.lookup key = some (state, stored) := by
  cases found : self.transactions.lookup key with
  | none => simp [absRecord, found, PaymentsSpec.noTx] at recorded
  | some entry =>
    obtain ⟨current, stored⟩ := entry
    rw [absRecord_found found] at inState
    have same : current = state := by cases current <;> cases state <;> cases inState <;> rfl
    exact ⟨stored, by rw [same]⟩

/-- A message whose action is enabled is accepted. -/
theorem accepts_of_guard {accounts : Accounts} {msg : InputMessage}
    (enabled : (action msg).guard (abstraction accounts) = true) :
    ∃ next, (accounts.entry msg.clientId).Accepts msg.call next := by
  have acct := abstraction_accounts accounts msg.clientId
  have record := abstraction_txRecords accounts msg.clientId msg.transactionId
  -- The guard of the action of a type says what the rule of the operation asks for.
  obtain ⟨chronoOrder, transactionType, clientId, transactionId, amount⟩ := msg
  cases transactionType with
  | deposit =>
    rw [action, PaymentsSpec.deposit_guard, acct, record] at enabled
    obtain ⟨positive, unlocked, fresh⟩ := enabled
    exact ⟨_, .deposit unlocked positive (absRecord_fresh.mp fresh)⟩
  | withdrawal =>
    rw [action, PaymentsSpec.withdrawal_guard, acct, record] at enabled
    obtain ⟨positive, unlocked, fresh, covered⟩ := enabled
    exact ⟨_, .withdrawal unlocked positive (absRecord_fresh.mp fresh) covered⟩
  | dispute =>
    rw [action, PaymentsSpec.dispute_guard, acct, record] at enabled
    obtain ⟨unlocked, recorded, inState⟩ := enabled
    obtain ⟨stored, found⟩ := found_of_absRecord .normal recorded inState
    exact ⟨_, .dispute unlocked found⟩
  | resolve =>
    rw [action, PaymentsSpec.resolve_guard, acct, record] at enabled
    obtain ⟨unlocked, recorded, inState⟩ := enabled
    obtain ⟨stored, found⟩ := found_of_absRecord .disputed recorded inState
    exact ⟨_, .resolve unlocked found⟩
  | chargeback =>
    rw [action, PaymentsSpec.chargeback_guard, acct, record] at enabled
    obtain ⟨unlocked, recorded, inState⟩ := enabled
    obtain ⟨stored, found⟩ := found_of_absRecord .disputed recorded inState
    exact ⟨_, .chargeback unlocked found⟩

/-- A refused message changes nothing that the specification sees. -/
theorem abstraction_logged (accounts : Accounts) (msg : InputMessage) :
    abstraction (accounts.insert msg.clientId ((accounts.entry msg.clientId).logged msg)) =
      abstraction accounts := by
  -- Logging stores the account with its record unchanged, which assigns both their own values.
  rw [abstraction_insert accounts msg.clientId msg.transactionId
    ((accounts.entry msg.clientId).logged msg) (fun _ _ => rfl)]
  have acct := abstraction_accounts accounts msg.clientId
  have record := abstraction_txRecords accounts msg.clientId msg.transactionId
  change (abstraction accounts).set _ _ (absAccount (accounts.entry msg.clientId))
    (absRecord (accounts.entry msg.clientId) msg.transactionId) = _
  rw [← acct, ← record, PaymentsSpec.State.set, Function.update_eq_self, Function.update_eq_self]

/-- How the engine's step on `msg` and the action of `msg` agree. -/
structure Agrees (accounts : Accounts) (msg : InputMessage) : Prop where
  okIff : (accounts.process msg).1 = .ok () ↔ (action msg).guard (abstraction accounts) = true
  post : (accounts.process msg).1 = .ok () →
    abstraction (accounts.process msg).2 = (action msg).post (abstraction accounts)
  unchanged : (accounts.process msg).1 ≠ .ok () →
    abstraction (accounts.process msg).2 = abstraction accounts

theorem agrees_process (accounts : Accounts) (msg : InputMessage) : Agrees accounts msg := by
  have result := Accounts.process_fst accounts msg
  have stored := Accounts.process_snd accounts msg
  obtain ⟨next, accepts⟩ | ⟨error, refused⟩ :=
    Account.apply_cases (accounts.entry msg.clientId) msg.call
  · rw [accepts.apply_eq] at result stored
    obtain ⟨enabled, post⟩ := action_of_accepts accepts
    exact ⟨by simp [result, enabled], fun _ => by rw [stored, post], fun failed => absurd result failed⟩
  · rw [refused] at result stored
    have disabled : (action msg).guard (abstraction accounts) ≠ true := by
      intro enabled
      obtain ⟨next, accepts⟩ := accepts_of_guard enabled
      rw [accepts.apply_eq] at refused
      cases refused
    refine ⟨by simp [result, disabled], fun ok => ?_, fun _ => ?_⟩
    · rw [result] at ok; cases ok
    · rw [stored]; exact abstraction_logged accounts msg

/-! ## Runs -/

/-- All integers as ids and as amounts. -/
def unbounded : Constants where
  clients := Set.univ
  txIds := Set.univ
  amounts := Set.univ

theorem step_of_takes {msg : InputMessage} {before after : State}
    (takes : (action msg).Takes before after) : PaymentsSpec.step unbounded before after := by
  refine ⟨msg.clientId.toNat, trivial, msg.transactionId.toNat, trivial, msg.amount, trivial, ?_⟩
  obtain ⟨chronoOrder, transactionType, clientId, transactionId, amount⟩ := msg
  cases transactionType with
  | deposit => exact .inl takes
  | withdrawal => exact .inr (.inl takes)
  | dispute => exact .inr (.inr (.inl takes))
  | resolve => exact .inr (.inr (.inr (.inl takes)))
  | chargeback => exact .inr (.inr (.inr (.inr takes)))

theorem step_or_same (accounts : Accounts) (msg : InputMessage) :
    abstraction (accounts.process msg).2 = abstraction accounts ∨
      PaymentsSpec.step unbounded (abstraction accounts) (abstraction (accounts.process msg).2) := by
  obtain ⟨okIff, post, unchanged⟩ := agrees_process accounts msg
  by_cases ok : (accounts.process msg).1 = .ok ()
  · exact .inr (step_of_takes ⟨okIff.mp ok, post ok⟩)
  · exact .inl (unchanged ok)

theorem abstraction_empty : abstraction ∅ = PaymentsSpec.init := by
  have none : ∀ clientId, (clientKey clientId).bind (Finmap.lookup · (∅ : Accounts)) = none := by
    intro clientId
    cases clientKey clientId <;> simp
  simp only [abstraction, none, PaymentsSpec.init]

/-- In every reachable state the engine's next step is the action of the message when that is
    enabled and nothing otherwise, so every run is a stuttering run of the specification. -/
theorem engine_refines_paymentsSpec (messages : List InputMessage) :
    (∀ msg, Agrees (after Accounts.process ∅ messages) msg) ∧
      StutteringRun PaymentsSpec.init (PaymentsSpec.step unbounded)
        ((states Accounts.process ∅ messages).map abstraction) := by
  refine ⟨agrees_process _, ?_⟩
  rw [← abstraction_empty]
  exact stutteringRun_states Accounts.process (fun _ => True) (fun _ _ _ => trivial)
    (fun accounts msg _ => step_or_same accounts msg) trivial messages

end PaymentsEngine.Refinement
