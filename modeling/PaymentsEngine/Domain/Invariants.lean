import Mathlib.Algebra.Order.Ring.Int
import PaymentsEngine.Library.Machine
import PaymentsEngine.Domain.AccountSteps

/-! # The invariants of an account

`checkInvariants` is the debug-only checker of the source.  Its assertions are not
inductive by themselves: `WellFormed` strengthens them with the positivity of every
recorded amount and with what the lock says about the chargebacks, is kept by every
call, and implies each assertion.
-/

namespace PaymentsEngine

open PaymentsEngine.Library PaymentsEngine.Library.Machine

namespace Account

/-! ## The debug checker -/

/-- What a recorded transaction contributes to the held funds. -/
def pending (entry : TransactionState × InputMessage) : Int :=
  match entry.1 with
  | .disputed => entry.2.amount
  | _ => Amount.zero

/-- A loop that asserts a condition of every id of a set. -/
def assertEach (ids : Finset TransactionId) (condition : TransactionId → Bool) : Bool :=
  decide (ids.filter (fun txId => condition txId) = ids)

theorem assertEach_iff (ids : Finset TransactionId) (condition : TransactionId → Bool) :
    assertEach ids condition = true ↔ ∀ txId ∈ ids, condition txId = true := by
  rw [assertEach, decide_eq_true_eq, Finset.filter_eq_self]

/-- The assertions of `check_invariants`, in their order. -/
def checkInvariants (account : Account) : Bool :=
  decide (0 ≤ account.total ∨ account.locked) &&
  decide (account.total = account.available + account.held) &&
  -- Every recorded transaction is in exactly one of the sets.
  decide (∀ entry ∈ account.transactions.entries,
    (decide (entry.1 ∈ account.normal)).toNat + (decide (entry.1 ∈ account.disputes)).toNat +
      (decide (entry.1 ∈ account.resolves)).toNat +
      (decide (entry.1 ∈ account.chargebacks)).toNat = 1) &&
  -- It is the set of its recorded state.
  decide (∀ entry ∈ account.transactions.entries, entry.1 ∈ account.stateSet entry.2.1) &&
  assertEach account.normal (fun txId => decide (txId ∈ account.transactions)) &&
  assertEach account.disputes (fun txId => decide (txId ∈ account.transactions)) &&
  assertEach account.resolves (fun txId => decide (txId ∈ account.transactions)) &&
  assertEach account.chargebacks (fun txId => decide (txId ∈ account.transactions)) &&
  decide (account.normal.card + account.disputes.card + account.resolves.card +
    account.chargebacks.card = account.transactions.keys.card) &&
  decide (Disjoint account.normal account.disputes) &&
  decide (Disjoint account.normal account.resolves) &&
  decide (Disjoint account.normal account.chargebacks) &&
  decide (Disjoint account.disputes account.resolves) &&
  decide (Disjoint account.disputes account.chargebacks) &&
  decide (Disjoint account.resolves account.chargebacks) &&
  assertEach account.disputes (fun txId => decide (account.stateOf txId = some .disputed)) &&
  decide (account.locked = true → account.chargebacks ≠ ∅) &&
  decide (account.held = sumOver pending account.transactions)

/-- A call in a debug build: the checker runs before it and after it, and a failed assertion
    panics. -/
def debugApply (account : Account) (call : Call) : Option (TransactionResult × Account) :=
  if account.checkInvariants && (account.apply call).2.checkInvariants then
    some (account.apply call)
  else none

/-- A call in a build: only a debug build has the checker. -/
def callIn (build : Build) (account : Account) (call : Call) : Option (TransactionResult × Account) :=
  match build with
  | .debug => account.debugApply call
  | .release => some (account.apply call)

/-- A run in a debug build; `none` when a call panics. -/
def debugAfter (account : Account) (calls : List Call) : Option Account :=
  calls.foldlM (fun account call => (account.debugApply call).map Prod.snd) account

/-! ## The inductive invariant -/

structure WellFormed (account : Account) : Prop where
  sets : ∀ state id, id ∈ account.stateSet state ↔ account.stateOf id = some state
  positive : ∀ id entry, account.transactions.lookup id = some entry → 0 < entry.2.amount
  heldIsPending : account.held = sumOver pending account.transactions
  totalIsSum : account.total = account.available + account.held
  totalNonneg : account.locked = false → 0 ≤ account.total
  unlockedSet : account.locked = false → account.chargebacks = ∅
  lockedSet : account.locked = true → ∃ id, account.chargebacks = {id}

theorem wellFormed_new (clientId : ClientId) : (new clientId).WellFormed where
  sets := by intro state id; cases state <;> simp [stateSet, stateOf, new]
  positive := by intro id entry found; simp [new] at found
  heldIsPending := rfl
  totalIsSum := rfl
  totalNonneg := fun _ => le_refl _
  unlockedSet := fun _ => rfl
  lockedSet := by intro locked; cases locked

theorem WellFormed.logged {self : Account} (wellFormed : self.WellFormed) (msg : InputMessage) :
    (self.logged msg).WellFormed where
  sets := by intro state id; rw [stateSet_logged]; exact wellFormed.sets state id
  positive := wellFormed.positive
  heldIsPending := wellFormed.heldIsPending
  totalIsSum := wellFormed.totalIsSum
  totalNonneg := wellFormed.totalNonneg
  unlockedSet := wellFormed.unlockedSet
  lockedSet := wellFormed.lockedSet

theorem WellFormed.pending_nonneg {self : Account} (wellFormed : self.WellFormed) :
    ∀ id entry, self.transactions.lookup id = some entry → 0 ≤ pending entry := by
  intro id entry found
  have amountPositive := wellFormed.positive id entry found
  unfold pending
  split
  · exact le_of_lt amountPositive
  · exact le_refl _

theorem WellFormed.held_nonneg {self : Account} (wellFormed : self.WellFormed) : 0 ≤ self.held := by
  rw [wellFormed.heldIsPending]
  exact sumOver_nonneg wellFormed.pending_nonneg

/-! ## Every call keeps it -/

theorem Recorded.sets_kept {self next : Account} {msg : InputMessage}
    (recorded : Recorded self next msg)
    (sets : ∀ state id, id ∈ self.stateSet state ↔ self.stateOf id = some state) :
    ∀ state id, id ∈ next.stateSet state ↔ next.stateOf id = some state := by
  intro state id
  have unrecorded : self.stateOf msg.transactionId = none := by
    rw [stateOf, Finmap.lookup_eq_none.mpr recorded.fresh]; rfl
  rw [recorded.sets, stateOf_insert recorded.transactions]
  by_cases same : id = msg.transactionId
  · subst same
    cases state <;> simp [sets, unrecorded]
  · cases state <;> simp [sets, same]

theorem Moved.sets_kept {self next : Account} {msg stored : InputMessage}
    {transition : ExecuteTransition} (moved : Moved self next msg transition stored)
    (different : transition.fromState ≠ transition.toState)
    (sets : ∀ state id, id ∈ self.stateSet state ↔ self.stateOf id = some state) :
    ∀ state id, id ∈ next.stateSet state ↔ next.stateOf id = some state := by
  intro state id
  have before : self.stateOf msg.transactionId = some transition.fromState := by
    rw [stateOf, moved.found]; rfl
  rw [moved.sets, stateOf_insert moved.transactions]
  -- Only the moved id changes sets: it leaves the set of `fromState` for that of `toState`.
  by_cases same : id = msg.transactionId
  · subst same
    by_cases arrives : state = transition.toState
    · simp [arrives]
    · by_cases leaves : state = transition.fromState
      · simp [leaves, different, eq_comm]
      · simp [arrives, leaves, sets, before, eq_comm]
  · by_cases arrives : state = transition.toState
    · simp [arrives, same, sets]
    · by_cases leaves : state = transition.fromState
      · simp [leaves, different, same, sets]
      · simp [arrives, leaves, same, sets]

theorem canTransition_different {transition : ExecuteTransition}
    (allowed : transition.fromState.canTransition transition.toState = .ok transition) :
    transition.fromState ≠ transition.toState := by
  obtain ⟨_, ⟨source, target⟩ | ⟨source, target⟩ | ⟨source, target⟩⟩ :=
    TransactionState.canTransition_ok allowed <;> simp [source, target]

theorem WellFormed.sets_accepts {self next : Account} {call : Call} (wellFormed : self.WellFormed)
    (accepts : self.Accepts call next) :
    ∀ state id, id ∈ next.stateSet state ↔ next.stateOf id = some state := by
  obtain recorded | ⟨transition, stored, moved, allowed⟩ := accepts.shape
  · exact recorded.sets_kept wellFormed.sets
  · exact moved.sets_kept (canTransition_different allowed) wellFormed.sets

theorem WellFormed.positive_accepts {self next : Account} {call : Call}
    (wellFormed : self.WellFormed) (accepts : self.Accepts call next) :
    ∀ id entry, next.transactions.lookup id = some entry → 0 < entry.2.amount := by
  intro id entry found
  obtain recorded | ⟨transition, stored, moved, allowed⟩ := accepts.shape
  · rw [recorded.transactions, lookup_insert_eq] at found
    split at found
    · cases found; exact recorded.positive
    · exact wellFormed.positive id entry found
  · rw [moved.transactions, lookup_insert_eq] at found
    split at found
    · cases found
      have amountPositive := wellFormed.positive _ _ moved.found
      exact amountPositive
    · exact wellFormed.positive id entry found

/-- Moving a recorded transaction exchanges what it contributes to the held funds. -/
theorem Moved.pending_exchange {self next : Account} {msg stored : InputMessage}
    {transition : ExecuteTransition} (moved : Moved self next msg transition stored) :
    pending (transition.fromState, stored) + sumOver pending next.transactions =
      pending (transition.toState, stored) + sumOver pending self.transactions := by
  rw [moved.transactions]
  exact sumOver_insert_replace pending moved.found

theorem Recorded.pending_same {self next : Account} {msg : InputMessage}
    (recorded : Recorded self next msg) :
    sumOver pending next.transactions = sumOver pending self.transactions := by
  rw [recorded.transactions, sumOver_insert_fresh _ recorded.fresh]
  simp [pending, Amount.zero]

/-- The held funds follow the disputed transactions through every call. -/
theorem WellFormed.held_accepts {self next : Account} {call : Call} (wellFormed : self.WellFormed)
    (accepts : self.Accepts call next) : next.held = sumOver pending next.transactions := by
  have held := wellFormed.heldIsPending
  cases accepts with
  | deposit unlocked positive fresh =>
    rw [record_held, (recorded_record _ unlocked positive fresh).pending_same, held]
  | withdrawal unlocked positive fresh =>
    rw [record_held, (recorded_record _ unlocked positive fresh).pending_same, held]
  -- A disputed entry starts to be pending, and one that is resolved or charged back stops.
  | dispute unlocked found =>
    have exchange := (moved_withDispute unlocked found).pending_exchange
    simp only [pending, Amount.zero] at exchange
    rw [withDispute_held]
    omega
  | resolve unlocked found =>
    have exchange := (moved_withResolve unlocked found).pending_exchange
    simp only [pending, Amount.zero] at exchange
    rw [withResolve_held]
    omega
  | chargeback unlocked found =>
    have exchange := (moved_withChargeback unlocked found).pending_exchange
    simp only [pending, Amount.zero] at exchange
    rw [withChargeback_held]
    omega

theorem WellFormed.total_accepts {self next : Account} {call : Call} (wellFormed : self.WellFormed)
    (accepts : self.Accepts call next) : next.total = next.available + next.held := by
  have total := wellFormed.totalIsSum
  cases accepts <;> simp <;> omega

/-- A withdrawal leaves at least the held funds, which are never negative. -/
theorem WellFormed.totalNonneg_accepts {self next : Account} {call : Call}
    (wellFormed : self.WellFormed) (accepts : self.Accepts call next)
    (stillUnlocked : next.locked = false) : 0 ≤ next.total := by
  have total := wellFormed.totalIsSum
  have nonneg := wellFormed.totalNonneg accepts.unlocked
  have heldNonneg := wellFormed.held_nonneg
  cases accepts with
  | deposit _ positive _ => rw [record_total]; omega
  | withdrawal _ _ _ covered => rw [record_total]; omega
  | dispute => rw [withDispute_total]; exact nonneg
  | resolve => rw [withResolve_total]; exact nonneg
  | chargeback => rw [withChargeback_locked] at stillUnlocked; cases stillUnlocked

/-- A chargeback of an unlocked account leaves its id as the only charged back one. -/
theorem WellFormed.chargebacks_withChargeback {self : Account} (wellFormed : self.WellFormed)
    {msg stored : InputMessage} (unlocked : self.locked = false)
    (found : self.transactions.lookup msg.transactionId = some (.disputed, stored)) :
    (self.withChargeback msg stored).chargebacks = {msg.transactionId} := by
  have grown := (moved_withChargeback unlocked found).sets .chargeback
  change (self.withChargeback msg stored).chargebacks = insert msg.transactionId self.chargebacks
    at grown
  rw [grown, wellFormed.unlockedSet unlocked]
  rfl

theorem WellFormed.chargebacks_accepts {self next : Account} {call : Call}
    (wellFormed : self.WellFormed) (accepts : self.Accepts call next) :
    (next.locked = false → next.chargebacks = ∅) ∧
      (next.locked = true → ∃ id, next.chargebacks = {id}) := by
  have none := wellFormed.unlockedSet accepts.unlocked
  cases accepts with
  | deposit unlocked | withdrawal unlocked => exact ⟨fun _ => none, by simp [unlocked]⟩
  | dispute unlocked found =>
    have kept := (moved_withDispute unlocked found).sets .chargeback
    exact ⟨fun _ => kept.trans none, by simp [unlocked]⟩
  | resolve unlocked found =>
    have kept := (moved_withResolve unlocked found).sets .chargeback
    exact ⟨fun _ => kept.trans none, by simp [unlocked]⟩
  | chargeback unlocked found =>
    exact ⟨by simp, fun _ => ⟨_, wellFormed.chargebacks_withChargeback unlocked found⟩⟩

theorem WellFormed.accepts {self next : Account} {call : Call} (wellFormed : self.WellFormed)
    (accepts : self.Accepts call next) : next.WellFormed where
  sets := wellFormed.sets_accepts accepts
  positive := wellFormed.positive_accepts accepts
  heldIsPending := wellFormed.held_accepts accepts
  totalIsSum := wellFormed.total_accepts accepts
  totalNonneg := wellFormed.totalNonneg_accepts accepts
  unlockedSet := (wellFormed.chargebacks_accepts accepts).1
  lockedSet := (wellFormed.chargebacks_accepts accepts).2

theorem WellFormed.apply {self : Account} (wellFormed : self.WellFormed) (call : Call) :
    (self.apply call).2.WellFormed :=
  apply_invariant (wellFormed.logged call.message) fun _ accepts => wellFormed.accepts accepts

theorem wellFormed_after (clientId : ClientId) (calls : List Call) :
    (after Account.apply (new clientId) calls).WellFormed :=
  after_invariant Account.apply (fun _ call wellFormed => wellFormed.apply call)
    (wellFormed_new clientId) calls

/-! ## The assertions of the checker -/

theorem stateOf_of_mem_entries {self : Account}
    {entry : Sigma fun _ : TransactionId => TransactionState × InputMessage}
    (member : entry ∈ self.transactions.entries) : self.stateOf entry.1 = some entry.2.1 := by
  rw [stateOf, Finmap.mem_lookup_iff.mpr member]
  rfl

theorem WellFormed.disjoint_sets {self : Account} (wellFormed : self.WellFormed)
    (first second : TransactionState) (different : first ≠ second) :
    Disjoint (self.stateSet first) (self.stateSet second) := by
  rw [Finset.disjoint_left]
  intro id inFirst inSecond
  rw [wellFormed.sets] at inFirst inSecond
  rw [inFirst] at inSecond
  exact different (Option.some.inj inSecond)

theorem WellFormed.mem_transactions {self : Account} (wellFormed : self.WellFormed)
    {state : TransactionState} {id : TransactionId} (member : id ∈ self.stateSet state) :
    id ∈ self.transactions := by
  rw [wellFormed.sets, stateOf, Option.map_eq_some_iff] at member
  obtain ⟨entry, found, _⟩ := member
  exact Finmap.mem_of_lookup_eq_some found

/-- The four sets partition the recorded ids. -/
theorem WellFormed.card_sets {self : Account} (wellFormed : self.WellFormed) :
    self.normal.card + self.disputes.card + self.resolves.card + self.chargebacks.card =
      self.transactions.keys.card := by
  -- Every recorded id is in the set of its state, and the sets hold nothing else.
  have keys : self.transactions.keys =
      self.stateSet .normal ∪ self.stateSet .disputed ∪ self.stateSet .resolved ∪
        self.stateSet .chargeback := by
    ext id
    simp only [Finset.mem_union, Finmap.mem_keys]
    constructor
    · intro recorded
      obtain ⟨⟨state, stored⟩, found⟩ := Finmap.mem_iff.mp recorded
      have recordedState : self.stateOf id = some state := by rw [stateOf, found]; rfl
      have member := (wellFormed.sets state id).mpr recordedState
      cases state <;> simp [member]
    · rintro (((member | member) | member) | member) <;> exact wellFormed.mem_transactions member
  rw [keys, Finset.card_union_of_disjoint, Finset.card_union_of_disjoint,
    Finset.card_union_of_disjoint]
  · rfl
  · exact wellFormed.disjoint_sets _ _ (by simp)
  · rw [Finset.disjoint_union_left]
    exact ⟨wellFormed.disjoint_sets _ _ (by simp), wellFormed.disjoint_sets _ _ (by simp)⟩
  · rw [Finset.disjoint_union_left, Finset.disjoint_union_left]
    exact ⟨⟨wellFormed.disjoint_sets _ _ (by simp), wellFormed.disjoint_sets _ _ (by simp)⟩,
      wellFormed.disjoint_sets _ _ (by simp)⟩

theorem WellFormed.checkInvariants {self : Account} (wellFormed : self.WellFormed) :
    self.checkInvariants = true := by
  have mem : ∀ state id, id ∈ self.stateSet state → id ∈ self.transactions :=
    fun _ _ member => wellFormed.mem_transactions member
  simp only [Account.checkInvariants, Bool.and_eq_true, assertEach_iff, decide_eq_true_eq]
  refine ⟨⟨⟨⟨⟨⟨⟨⟨⟨⟨⟨⟨⟨⟨⟨⟨⟨?_, wellFormed.totalIsSum⟩, ?_⟩, ?_⟩, mem .normal⟩, mem .disputed⟩,
    mem .resolved⟩, mem .chargeback⟩, wellFormed.card_sets⟩, ?_⟩, ?_⟩, ?_⟩, ?_⟩, ?_⟩, ?_⟩, ?_⟩, ?_⟩,
    wellFormed.heldIsPending⟩
  · cases locked : self.locked with
    | true => exact .inr rfl
    | false => exact .inl (wellFormed.totalNonneg locked)
  · -- Each recorded id is in the set of its state and in no other.
    intro entry member
    have recordedState := stateOf_of_mem_entries member
    have sets : ∀ state, entry.1 ∈ self.stateSet state ↔ entry.2.1 = state := by
      intro state
      rw [wellFormed.sets, recordedState, Option.some.injEq]
    have inNormal := sets .normal
    have inDisputes := sets .disputed
    have inResolves := sets .resolved
    have inChargebacks := sets .chargeback
    simp only [stateSet] at inNormal inDisputes inResolves inChargebacks
    simp only [inNormal, inDisputes, inResolves, inChargebacks]
    cases entry.2.1 <;> rfl
  · intro entry member
    rw [wellFormed.sets]
    exact stateOf_of_mem_entries member
  · exact wellFormed.disjoint_sets .normal .disputed (by simp)
  · exact wellFormed.disjoint_sets .normal .resolved (by simp)
  · exact wellFormed.disjoint_sets .normal .chargeback (by simp)
  · exact wellFormed.disjoint_sets .disputed .resolved (by simp)
  · exact wellFormed.disjoint_sets .disputed .chargeback (by simp)
  · exact wellFormed.disjoint_sets .resolved .chargeback (by simp)
  · exact fun id member => (wellFormed.sets .disputed id).mp member
  · intro locked
    obtain ⟨id, only⟩ := wellFormed.lockedSet locked
    rw [only]
    exact Finset.singleton_ne_empty id

theorem WellFormed.debugApply {self : Account} (wellFormed : self.WellFormed) (call : Call) :
    self.debugApply call = some (self.apply call) := by
  unfold Account.debugApply
  rw [wellFormed.checkInvariants, (wellFormed.apply call).checkInvariants]
  rfl

theorem WellFormed.debugAfter {self : Account} (wellFormed : self.WellFormed) (calls : List Call) :
    self.debugAfter calls = some (after Account.apply self calls) := by
  induction calls generalizing self with
  | nil => rfl
  | cons call calls ih =>
    have rest := ih (wellFormed.apply call)
    rw [Account.debugAfter] at rest
    rw [Account.debugAfter, List.foldlM_cons, wellFormed.debugApply, Option.map_some,
      Option.bind_eq_bind, Option.bind_some, rest, after_cons]

/-- Every assertion of the checker holds in every reachable account, a debug build never panics
    on the way to it, and its held funds are not negative. -/
theorem reachable_checkInvariants (clientId : ClientId) (calls : List Call) :
    (after Account.apply (new clientId) calls).checkInvariants = true ∧
      (new clientId).debugAfter calls = some (after Account.apply (new clientId) calls) ∧
      0 ≤ (after Account.apply (new clientId) calls).held :=
  have wellFormed := wellFormed_after clientId calls
  ⟨wellFormed.checkInvariants, (wellFormed_new clientId).debugAfter calls, wellFormed.held_nonneg⟩

end Account

end PaymentsEngine
