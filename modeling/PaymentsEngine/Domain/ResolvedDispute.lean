import PaymentsEngine.Library.TwoRuns
import PaymentsEngine.Domain.Invariants

/-! # A resolved dispute leaves no trace

The run with the dispute is followed next to the run without it.  `Beside` says how the
two accounts differ while the dispute is open: in the state of the transaction, and by
the amount that is held for it.  What is available is never more in the run with the
dispute, so whatever succeeds in it succeeds without the dispute too.
-/

namespace PaymentsEngine

open PaymentsEngine.Library PaymentsEngine.Library.Machine

namespace Account

/-- `other` is `account` but for the transaction `id`: it is in `state`, and `moved` of the available
    funds are held for it. -/
structure Beside (id : TransactionId) (stored : InputMessage) (state : TransactionState)
    (moved : Int) (other account : Account) : Prop where
  found : account.transactions.lookup id = some (.normal, stored)
  transactions : other.transactions = account.transactions.insert id (state, stored)
  available : other.available = account.available - moved
  held : other.held = account.held + moved
  total : other.total = account.total
  locked : other.locked = account.locked

section Beside

variable {id : TransactionId} {stored : InputMessage} {state : TransactionState} {moved : Int}
  {account other : Account}

theorem Beside.lookup_apart (beside : Beside id stored state moved other account)
    {key : TransactionId} (apart : key ≠ id) :
    other.transactions.lookup key = account.transactions.lookup key := by
  rw [beside.transactions, Finmap.lookup_insert_of_ne _ apart]

theorem Beside.fresh (beside : Beside id stored state moved other account) {key : TransactionId}
    (fresh : key ∉ other.transactions) : key ∉ account.transactions := by
  rw [beside.transactions, Finmap.mem_insert] at fresh
  exact fun recorded => fresh (.inr recorded)

/-- Both accounts write the same entry for another transaction. -/
theorem Beside.written (beside : Beside id stored state moved other account) {key : TransactionId}
    (apart : key ≠ id) (entry : TransactionState × InputMessage) {next follow : Account}
    (nextWrites : next.transactions = other.transactions.insert key entry)
    (followWrites : follow.transactions = account.transactions.insert key entry) :
    follow.transactions.lookup id = some (.normal, stored) ∧
      next.transactions = follow.transactions.insert id (state, stored) := by
  rw [nextWrites, followWrites, beside.transactions, Finmap.lookup_insert_of_ne _ (Ne.symm apart),
    Finmap.insert_insert_of_ne _ apart]
  exact ⟨beside.found, rfl⟩

/-- What succeeds with the dispute succeeds without it, and the accounts stay beside each other. -/
theorem Beside.accepts (beside : Beside id stored state moved other account) (nonneg : 0 ≤ moved)
    {call : Call} {next : Account} (apart : call.message.transactionId ≠ id)
    (accepts : other.Accepts call next) :
    ∃ follow, account.Accepts call follow ∧ Beside id stored state moved next follow := by
  have unlocked : account.locked = false := beside.locked ▸ accepts.unlocked
  have lookups := beside.lookup_apart apart
  have available := beside.available
  have held := beside.held
  have total := beside.total
  -- What is held for `id` in the one run is available in the other.
  have covers : other.available ≤ account.available := by omega
  obtain ⟨follow, follows, alike⟩ := accepts.alike Eq (fun _ => rfl) (by rintro _ _ rfl; rfl)
    unlocked covers beside.fresh fun _ message _ found => ⟨message, lookups ▸ found, rfl⟩
  obtain ⟨_, _, _, nextWrites, followWrites, rfl⟩ := alike.written
  obtain ⟨found, transactions⟩ := beside.written apart _ nextWrites followWrites
  have availableAlike := alike.available
  have heldAlike := alike.held
  have totalAlike := alike.total
  refine ⟨follow, follows, found, transactions, ?_, ?_, ?_, alike.locked.symm⟩ <;> omega

/-- The accounts when the dispute begins. -/
theorem beside_withDispute {msg : InputMessage} (unlocked : account.locked = false)
    (found : account.transactions.lookup msg.transactionId = some (.normal, stored)) :
    Beside msg.transactionId stored .disputed stored.amount (account.withDispute msg stored) account where
  found := found
  transactions := (moved_withDispute unlocked found).transactions
  available := withDispute_available account msg stored
  held := withDispute_held account msg stored
  total := withDispute_total account msg stored
  locked := withDispute_locked account msg stored

/-- Resolving the dispute gives back what was held for it. -/
theorem Beside.withResolve {msg : InputMessage}
    (beside : Beside msg.transactionId stored .disputed stored.amount other account)
    (unlocked : other.locked = false)
    (found : other.transactions.lookup msg.transactionId = some (.disputed, stored)) :
    Beside msg.transactionId stored .resolved 0 (other.withResolve msg stored) account where
  found := beside.found
  transactions := by
    rw [(moved_withResolve unlocked found).transactions, beside.transactions, Finmap.insert_insert]
  available := by
    have available := beside.available
    simp
    omega
  held := by
    have held := beside.held
    simp
    omega
  total := (withResolve_total other msg stored).trans beside.total
  locked := (withResolve_locked other msg stored).trans beside.locked

/-- The transaction is in the set of `state` instead of the normal ones, and nothing else is in
    another set. -/
theorem Beside.stateSet (beside : Beside id stored state moved other account)
    (otherWellFormed : other.WellFormed) (wellFormed : account.WellFormed) (set : TransactionState) :
    other.stateSet set =
      if set = state then insert id (account.stateSet set) else (account.stateSet set).erase id := by
  ext key
  rw [otherWellFormed.sets, stateOf_insert beside.transactions]
  by_cases same : key = id
  · rw [if_pos same, Option.some.injEq, eq_comm]
    by_cases here : set = state <;> simp [same, here]
  · by_cases here : set = state <;> simp [same, here, wellFormed.sets]

end Beside

/-- `resolved` is `account` but for the transaction `id`, which it has as resolved instead of normal. -/
structure ResolvedIn (id : TransactionId) (resolved account : Account) : Prop where
  available : resolved.available = account.available
  held : resolved.held = account.held
  total : resolved.total = account.total
  locked : resolved.locked = account.locked
  transactions : ∃ stored, account.transactions.lookup id = some (.normal, stored) ∧
    resolved.transactions = account.transactions.insert id (.resolved, stored)
  normal : id ∈ account.normal ∧ resolved.normal = account.normal.erase id
  disputes : resolved.disputes = account.disputes
  resolves : id ∉ account.resolves ∧ resolved.resolves = insert id account.resolves
  chargebacks : resolved.chargebacks = account.chargebacks

section Resolved

variable {id : TransactionId} {stored : InputMessage} {account other : Account}

theorem WellFormed.stateSet_erase (wellFormed : account.WellFormed) {set : TransactionState}
    (elsewhere : account.stateOf id ≠ some set) : (account.stateSet set).erase id = account.stateSet set := by
  rw [Finset.erase_eq_self, wellFormed.sets]
  exact elsewhere

theorem Beside.resolvedIn (beside : Beside id stored .resolved 0 other account)
    (otherWellFormed : other.WellFormed) (wellFormed : account.WellFormed) :
    ResolvedIn id other account := by
  have normal : account.stateOf id = some .normal := by rw [stateOf, beside.found]; rfl
  -- The sets follow the recorded states, so the states say all about them.
  have sets := beside.stateSet otherWellFormed wellFormed
  constructor
  case available => rw [beside.available, sub_zero]
  case held => rw [beside.held, add_zero]
  case total => exact beside.total
  case locked => exact beside.locked
  case transactions => exact ⟨stored, beside.found, beside.transactions⟩
  case normal => exact ⟨(wellFormed.sets .normal id).mpr normal, sets .normal⟩
  case disputes => exact (sets .disputed).trans (wellFormed.stateSet_erase (by simp [normal]))
  case resolves =>
    have unresolved : id ∉ account.stateSet .resolved := by simp [wellFormed.sets, normal]
    exact ⟨unresolved, sets .resolved⟩
  case chargebacks => exact (sets .chargeback).trans (wellFormed.stateSet_erase (by simp [normal]))

theorem Accepts.stays_unlocked {next : Account} {call : Call} (accepts : account.Accepts call next)
    (noChargeback : call.operation ≠ .chargeback) : next.locked = false := by
  cases accepts with
  | chargeback => exact absurd rfl noChargeback
  | deposit unlocked | withdrawal unlocked | dispute unlocked | resolve unlocked =>
    simpa using unlocked

/-- While the dispute is open, the run without it follows the run with it. -/
theorem follows_disputed (positive : 0 < stored.amount) :
    Follows Account.apply (fun result => result = .ok ())
      (fun op => op.message.transactionId ≠ id ∧ op.operation ≠ .chargeback)
      (fun other account => Beside id stored .disputed stored.amount other account ∧
        other.locked = false) := by
  intro other account op related admissible ok
  obtain ⟨beside, unlocked⟩ := related
  obtain ⟨apart, noChargeback⟩ := admissible
  have accepts := accepts_of_ok ok
  obtain ⟨follow, follows, stillBeside⟩ := beside.accepts (le_of_lt positive) apart accepts
  rw [follows.apply_eq]
  exact ⟨rfl, stillBeside, accepts.stays_unlocked noChargeback⟩

/-- The dispute sets the accounts beside each other, and the operations after it keep them so. -/
theorem beside_after_dispute (wellFormed : account.WellFormed) {dispute : InputMessage}
    {ops : List Call} (admissible : ∀ op ∈ ops,
      op.message.transactionId ≠ dispute.transactionId ∧ op.operation ≠ .chargeback)
    (succeeds : ∀ result ∈ outputs Account.apply account (⟨.dispute, dispute⟩ :: ops), result = .ok ()) :
    ∃ stored, Beside dispute.transactionId stored .disputed stored.amount
        (after Account.apply account (⟨.dispute, dispute⟩ :: ops)) (after Account.apply account ops) ∧
      (after Account.apply account (⟨.dispute, dispute⟩ :: ops)).locked = false ∧
      ∀ result ∈ outputs Account.apply account ops, result = .ok () := by
  rw [outputs_cons, List.forall_mem_cons] at succeeds
  obtain ⟨disputes, opsSucceed⟩ := succeeds
  rw [after_cons]
  obtain ⟨next, accepts⟩ := ok_iff_accepts.mp disputes
  rw [accepts.apply_eq] at opsSucceed ⊢
  cases accepts with
  | @dispute _ stored unlocked found =>
    -- The held amount is positive, so the run without the dispute has at least as much available.
    have positive : 0 < stored.amount := wellFormed.positive _ _ found
    have begins := beside_withDispute unlocked found
    have stillUnlocked := (withDispute_locked account dispute stored).trans unlocked
    obtain ⟨opsAlone, beside, ends⟩ :=
      (follows_disputed positive).run admissible ⟨begins, stillUnlocked⟩ opsSucceed
    exact ⟨stored, beside, ends, opsAlone⟩

/-- Disputing and resolving around `ops` leaves what `ops` alone leave, but for the state of the
    disputed transaction. -/
structure LeavesNoTrace (account : Account) (dispute : InputMessage) (ops : List Call)
    (resolve : InputMessage) : Prop where
  resolves : ((after Account.apply account (⟨.dispute, dispute⟩ :: ops)).apply
    ⟨.resolve, resolve⟩).1 = .ok ()
  opsAlone : ∀ result ∈ outputs Account.apply account ops, result = .ok ()
  final : ResolvedIn dispute.transactionId
    (after Account.apply account (⟨.dispute, dispute⟩ :: ops ++ [⟨.resolve, resolve⟩]))
    (after Account.apply account ops)

theorem leavesNoTrace (wellFormed : account.WellFormed) {dispute resolve : InputMessage}
    {ops : List Call} (same : resolve.transactionId = dispute.transactionId)
    (admissible : ∀ op ∈ ops,
      op.message.transactionId ≠ dispute.transactionId ∧ op.operation ≠ .chargeback)
    (succeeds : ∀ result ∈ outputs Account.apply account (⟨.dispute, dispute⟩ :: ops), result = .ok ()) :
    LeavesNoTrace account dispute ops resolve := by
  obtain ⟨stored, beside, unlocked, opsAlone⟩ := beside_after_dispute wellFormed admissible succeeds
  have keeps : ∀ account call, WellFormed account → (Account.apply account call).2.WellFormed :=
    fun _ call wellFormed => wellFormed.apply call
  have alone := after_invariant Account.apply keeps wellFormed ops
  have whole := after_invariant Account.apply keeps wellFormed
    (⟨.dispute, dispute⟩ :: ops ++ [⟨.resolve, resolve⟩])
  rw [← same] at beside
  -- The operations name other transactions, so the dispute is still open when they are done.
  have disputed : (after Account.apply account (⟨.dispute, dispute⟩ :: ops)).transactions.lookup
      resolve.transactionId = some (.disputed, stored) := by
    rw [beside.transactions, Finmap.lookup_insert]
  have resolved := (Accepts.resolve unlocked disputed).apply_eq
  constructor
  case resolves => rw [resolved]
  case opsAlone => exact opsAlone
  case final =>
    rw [after_concat, resolved] at whole ⊢
    rw [← same]
    exact (beside.withResolve unlocked disputed).resolvedIn whole alone

end Resolved

/-- A resolved dispute leaves no trace on the money, whatever happens in between.  That the account
    is unlocked and the transaction normal when the dispute begins is part of its success. -/
theorem resolved_dispute_leaves_no_trace (clientId : ClientId) (calls ops : List Call)
    (dispute resolve : InputMessage) (same : resolve.transactionId = dispute.transactionId)
    (apart : ∀ op ∈ ops, op.message.transactionId ≠ dispute.transactionId)
    (noChargeback : ∀ op ∈ ops, op.operation ≠ .chargeback)
    (succeeds : ∀ result ∈ outputs Account.apply (after Account.apply (new clientId) calls)
      (⟨.dispute, dispute⟩ :: ops), result = .ok ()) :
    LeavesNoTrace (after Account.apply (new clientId) calls) dispute ops resolve :=
  leavesNoTrace (wellFormed_after clientId calls) same
    (fun op member => ⟨apart op member, noChargeback op member⟩) succeeds

/-- A deposit is disputed, and resolved after a withdrawal and another disputed deposit. -/
theorem dispute_around_withdrawal :
    LeavesNoTrace (after Account.apply (new 1) [⟨.deposit, ⟨0, .deposit, 1, 1, 700⟩⟩])
      ⟨1, .dispute, 1, 1, 0⟩
      [⟨.deposit, ⟨2, .deposit, 1, 2, 500⟩⟩, ⟨.withdrawal, ⟨3, .withdrawal, 1, 3, 200⟩⟩,
        ⟨.dispute, ⟨4, .dispute, 1, 2, 0⟩⟩, ⟨.resolve, ⟨5, .resolve, 1, 2, 0⟩⟩]
      ⟨6, .resolve, 1, 1, 0⟩ :=
  resolved_dispute_leaves_no_trace 1 [⟨.deposit, ⟨0, .deposit, 1, 1, 700⟩⟩] _ _ _ rfl (by decide)
    (by decide) (by decide)

end Account

end PaymentsEngine
