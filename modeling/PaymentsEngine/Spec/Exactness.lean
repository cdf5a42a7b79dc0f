import PaymentsEngine.Spec.Refinement

/-! # The engine does all that the specification allows

Over the ids that fit the machine words of the engine the specification allows nothing
that the engine cannot do: its behaviours are exactly the abstractions of the runs in
which every message is accepted.
-/

namespace PaymentsEngine.Refinement

open PaymentsEngine.Library PaymentsEngine.Library.Machine
open PaymentsEngine.PaymentsSpec (State Constants)

/-- The ids that the engine has names for. -/
def engineIds : Constants where
  clients := Set.range fun clientId : ClientId => (clientId.toNat : Int)
  txIds := Set.range fun txId : TransactionId => (txId.toNat : Int)
  amounts := Set.univ

theorem step_of_accepted {msg : InputMessage} {before next : State}
    (takes : (action msg).Takes before next) : PaymentsSpec.step engineIds before next := by
  refine ⟨msg.clientId.toNat, ⟨_, rfl⟩, msg.transactionId.toNat, ⟨_, rfl⟩, msg.amount, trivial, ?_⟩
  obtain ⟨chronoOrder, transactionType, clientId, transactionId, amount⟩ := msg
  cases transactionType with
  | deposit => exact .inl takes
  | withdrawal => exact .inr (.inl takes)
  | dispute => exact .inr (.inr (.inl takes))
  | resolve => exact .inr (.inr (.inr (.inl takes)))
  | chargeback => exact .inr (.inr (.inr (.inr takes)))

/-- Every step of the specification is the action of some message. -/
theorem message_of_step {before next : State} (stepped : PaymentsSpec.step engineIds before next) :
    ∃ msg, (action msg).Takes before next := by
  obtain ⟨_, ⟨clientId, rfl⟩, _, ⟨txId, rfl⟩, amount, _, taken⟩ := stepped
  obtain takes | takes | takes | takes | takes := taken
  · exact ⟨⟨0, .deposit, clientId, txId, amount⟩, takes⟩
  · exact ⟨⟨0, .withdrawal, clientId, txId, amount⟩, takes⟩
  · exact ⟨⟨0, .dispute, clientId, txId, amount⟩, takes⟩
  · exact ⟨⟨0, .resolve, clientId, txId, amount⟩, takes⟩
  · exact ⟨⟨0, .chargeback, clientId, txId, amount⟩, takes⟩

theorem isOk_iff (result : TransactionResult) : result.isOk = true ↔ result = .ok () := by
  cases result with
  | ok => simp [Except.isOk, Except.toBool]
  | error error => simp [Except.isOk, Except.toBool]

/-- A sequence of states is a behaviour of the specification exactly when it is what a sequence of
    accepted messages makes of the engine. -/
theorem behaviours_exact (rest : List State) :
    (PaymentsSpec.init :: rest).IsChain (PaymentsSpec.step engineIds) ↔
      ∃ messages, (∀ answer ∈ outputs Accounts.process ∅ messages, answer = .ok ()) ∧
        (states Accounts.process ∅ messages).map abstraction = PaymentsSpec.init :: rest := by
  have forth : ∀ accounts msg, (accounts.process msg).1.isOk = true →
      PaymentsSpec.step engineIds (abstraction accounts) (abstraction (accounts.process msg).2) := by
    intro accounts msg ok
    have agrees := agrees_process accounts msg
    rw [isOk_iff] at ok
    exact step_of_accepted ⟨agrees.okIff.mp ok, agrees.post ok⟩
  have back : ∀ accounts {following}, PaymentsSpec.step engineIds (abstraction accounts) following →
      ∃ msg, (accounts.process msg).1.isOk = true ∧
        abstraction (accounts.process msg).2 = following := by
    intro accounts following stepped
    obtain ⟨msg, enabled, rfl⟩ := message_of_step stepped
    have agrees := agrees_process accounts msg
    have ok := agrees.okIff.mpr enabled
    exact ⟨msg, (isOk_iff _).mpr ok, agrees.post ok⟩
  have exact' := isChain_iff_states Accounts.process forth back ∅ rest
  rw [abstraction_empty] at exact'
  simpa only [isOk_iff] using exact'

end PaymentsEngine.Refinement
