import PaymentsEngine.Domain.Ledger
import PaymentsEngine.Service.Accounting

/-! # What a client gets

The accounts are a family of machines, one for each client, so a client's account and
outcomes depend on its own messages only, and what holds of every account alone holds
of every client in every run.
-/

namespace PaymentsEngine

open PaymentsEngine.Library PaymentsEngine.Library.Machine

/-- The messages that name a client. -/
abbrev messagesOf (clientId : ClientId) (messages : List InputMessage) : List InputMessage :=
  Keyed.project InputMessage.clientId clientId messages

/-- The outcome that is reported for a message, from the account alone. -/
def Account.resolve (self : Account) (msg : InputMessage) : Resolution × Account :=
  let answered := self.dispatch msg
  ((msg.clientId, msg.transactionId, answered.1), answered.2)

theorem Accounts.resolve_eq_step :
    Accounts.resolve = Keyed.step InputMessage.clientId Account.new Account.resolve := by
  funext self msg
  rw [Accounts.resolve, Accounts.process_eq_step]
  rfl

/-! ## Isolation -/

/-- What `accounts` and `resolutions` hold for a client is what its own messages lead to. -/
structure Isolated (clientId : ClientId) (messages : List InputMessage) (accounts : Accounts)
    (resolutions : List Resolution) : Prop where
  account : accounts.lookup clientId =
    if ∃ msg ∈ messages, msg.clientId = clientId then
      some (after Account.dispatch (Account.new clientId) (messagesOf clientId messages))
    else none
  outcomes : resolutions.filter (fun resolution => resolution.1 = clientId) =
    outputs Account.resolve (Account.new clientId) (messagesOf clientId messages)

theorem isolated_resolve (clientId : ClientId) (messages : List InputMessage) :
    Isolated clientId messages (after Accounts.process ∅ messages)
      (outputs Accounts.resolve ∅ messages) where
  account := by
    rw [Accounts.process_eq_step]
    exact Keyed.lookup_after_empty _ _ _ messages clientId
  outcomes := by
    rw [Accounts.resolve_eq_step]
    exact Keyed.outputs_project InputMessage.clientId Account.new Account.resolve Prod.fst
      (fun _ _ => rfl) ∅ messages clientId

/-- Clients are isolated in every sequence of messages and in every run of the service, and two
    interleavings of the same messages of every client give the same accounts. -/
theorem client_isolation :
    (∀ clientId messages, Isolated clientId messages (after Accounts.process ∅ messages)
      (outputs Accounts.resolve ∅ messages)) ∧
    (∀ first second, (∀ clientId, messagesOf clientId first = messagesOf clientId second) →
      after Accounts.process ∅ first = after Accounts.process ∅ second) ∧
    ∀ heap receivers config stop stream,
      let run := Service.serverForever heap receivers config stop stream
      ∃ unsent, (run.result = .ok () → unsent = []) ∧
        ∀ clientId, Isolated clientId run.world.applied run.world.accounts
          (run.world.sent.filterMap Event.resolution ++ unsent) := by
  refine ⟨isolated_resolve, ?_, ?_⟩
  · intro first second agree
    rw [Accounts.process_eq_step]
    exact Keyed.after_eq_of_project_eq _ _ _ ∅ agree
  · intro heap receivers config stop stream
    obtain ⟨unsent, accounted, sentAll⟩ :=
      Service.serverForever_accounted heap receivers config stop stream
    refine ⟨unsent, sentAll, ?_⟩
    intro clientId
    have isolated := isolated_resolve clientId
      (Service.serverForever heap receivers config stop stream).world.applied
    rw [← accounted.outcomes, ← accounted.accounts] at isolated
    exact isolated

/-! ## Solvency -/

/-- The accepted messages of a client. -/
def acceptedOf (clientId : ClientId) (messages : List InputMessage) : List InputMessage :=
  messagesOf clientId (accepted Accounts.process Except.isOk ∅ messages)

theorem acceptedOf_eq (clientId : ClientId) (messages : List InputMessage) :
    acceptedOf clientId messages =
      accepted Account.dispatch Except.isOk (Account.new clientId)
        (messagesOf clientId messages) := by
  rw [acceptedOf, Accounts.process_eq_step]
  exact Keyed.accepted_project _ _ _ _ ∅ messages clientId

/-- In every run no client takes out more than it put in, and its total with the amount charged
    back is never negative. -/
theorem client_solvency (clientId : ClientId) (messages : List InputMessage) :
    Account.amountOfMessages .withdrawal (acceptedOf clientId messages) ≤
        Account.amountOfMessages .deposit (acceptedOf clientId messages) ∧
      ∀ account, (after Accounts.process ∅ messages).lookup clientId = some account →
        Account.Solvent account (acceptedOf clientId messages) := by
  have solvent := Account.solvent_after clientId (messagesOf clientId messages)
  rw [← acceptedOf_eq] at solvent
  refine ⟨solvent.covered, ?_⟩
  intro account found
  rw [(isolated_resolve clientId messages).account] at found
  split at found
  · cases found
    exact solvent
  · cases found

end PaymentsEngine
