import PaymentsEngine.Service.Flush

/-! # Arrival order inside a batch

The order of messages is total and tells apart what differs in the key, so what is
drained from the heap depends on what was pushed and not on when: a flush applies the
batch in ascending order.
-/

namespace PaymentsEngine

open PaymentsEngine.Library PaymentsEngine.Library.Machine

/-- The order in which the transactions of a batch are to be applied. -/
def PendingTransaction.Precedes (self other : PendingTransaction) : Prop :=
  self.message.Precedes other.message

namespace Service

variable (heap : PendingHeap)

/-- Transactions with different keys are drained in ascending order. -/
theorem drain_ascending {buffer : heap.Carrier} {batch : Multiset PendingTransaction}
    (contents : heap.contents buffer = batch)
    (distinct : (batch.map fun tx => tx.message.key).Nodup) :
    (heap.drain buffer).1.Pairwise PendingTransaction.Precedes := by
  rw [← contents, ← (heap.drain_contents buffer).1, Multiset.map_coe, Multiset.coe_nodup,
    List.Nodup, List.pairwise_map] at distinct
  -- Different keys never compare as equal.
  have strict : (heap.drain buffer).1.Pairwise fun tx later => tx.cmp later = .gt := by
    apply heap.drain_strict
    apply distinct.imp
    intro tx later different equal
    exact different (InputMessage.cmp_eq_eq_iff.mp equal)
  apply strict.imp
  intro tx later above
  exact InputMessage.cmp_eq_gt_iff.mp above

/-- There is one ascending order of a batch, and it is the one in which the heap drains. -/
theorem drain_of_ascending {buffer : heap.Carrier} {ascending : List PendingTransaction}
    (contents : heap.contents buffer = ascending)
    (sorted : ascending.Pairwise PendingTransaction.Precedes) :
    (heap.drain buffer).1 = ascending := by
  apply heap.drain_of_sorted contents
  apply sorted.imp
  intro tx later precedes
  exact InputMessage.cmp_eq_gt_iff.mpr precedes

/-- A flush applied the transactions of `batch` one after the other, and reported each. -/
structure AppliedInOrder (world : World) (batch : List PendingTransaction)
    (flushed : AnyResult × World × heap.Carrier) : Prop where
  result : flushed.1 = .ok ()
  accounts : flushed.2.1.accounts =
    after Accounts.process world.accounts (batch.map PendingTransaction.message)
  sent : flushed.2.1.sent = world.sent ++ outputs Accounts.respond world.accounts batch
  emptied : heap.contents flushed.2.2 = 0

theorem appliedInOrder_handleBuffer {buffer : heap.Carrier} {ascending : List PendingTransaction}
    (contents : heap.contents buffer = ascending)
    (sorted : ascending.Pairwise PendingTransaction.Precedes) (world : World) :
    AppliedInOrder heap world ascending (handleBuffer heap .allOpen world buffer) := by
  rw [handleBuffer_allOpen, drain_of_ascending heap contents sorted]
  exact ⟨rfl, Accounts.after_respond world.accounts ascending, rfl, (heap.drain_contents buffer).2⟩

/-- Whatever the heap holds already, a batch with distinct keys has one ascending order, and the
    flush applies it in this order however it was permuted when it was pushed. -/
theorem arrival_order_irrelevant (world : World) (buffer : heap.Carrier)
    (batch : List PendingTransaction)
    (distinct : ((heap.contents buffer + (batch : Multiset PendingTransaction)).map
      fun tx => tx.message.key).Nodup) :
    ∃ ascending : List PendingTransaction,
      (ascending : Multiset PendingTransaction) = heap.contents buffer + batch ∧
        ascending.Pairwise PendingTransaction.Precedes ∧
        ∀ arrived, arrived.Perm batch →
          AppliedInOrder heap world ascending
            (handleBuffer heap .allOpen world (heap.pushAll buffer arrived)) := by
  have contents := heap.contents_pushAll buffer batch
  have drained := (heap.drain_contents (heap.pushAll buffer batch)).1
  have sorted := drain_ascending heap contents distinct
  refine ⟨(heap.drain (heap.pushAll buffer batch)).1, drained.trans contents, sorted, ?_⟩
  intro arrived permutation
  -- The heap holds a multiset, so it does not remember in which order it was filled.
  have permuted : heap.contents (heap.pushAll buffer arrived) =
      heap.contents (heap.pushAll buffer batch) := by
    rw [contents, heap.contents_pushAll, Multiset.coe_eq_coe.mpr permutation]
  exact appliedInOrder_handleBuffer heap (permuted.trans drained.symm) sorted world

/-- Messages of one sequence number: two of one client, and one of another. -/
theorem arrival_order_of_three :
    ∃ ascending : List PendingTransaction,
      (ascending : Multiset PendingTransaction) =
          (listHeap PendingTransaction.cmp).contents [] +
            ([⟨⟨3, .withdrawal, 1, 2, 500⟩, 0⟩, ⟨⟨3, .deposit, 2, 3, 100⟩, 0⟩,
              ⟨⟨3, .deposit, 1, 1, 700⟩, 0⟩] : List PendingTransaction) ∧
        ascending.Pairwise PendingTransaction.Precedes ∧
        ∀ arrived, arrived.Perm [⟨⟨3, .withdrawal, 1, 2, 500⟩, 0⟩, ⟨⟨3, .deposit, 2, 3, 100⟩, 0⟩,
            ⟨⟨3, .deposit, 1, 1, 700⟩, 0⟩] →
          AppliedInOrder (listHeap PendingTransaction.cmp) .new ascending
            (handleBuffer (listHeap PendingTransaction.cmp) .allOpen .new
              ((listHeap PendingTransaction.cmp).pushAll [] arrived)) :=
  arrival_order_irrelevant (listHeap PendingTransaction.cmp) .new [] _ (by decide)

end Service

end PaymentsEngine
