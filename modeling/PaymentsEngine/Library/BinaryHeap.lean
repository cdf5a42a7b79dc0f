import Mathlib.Data.Multiset.AddSub
import Mathlib.Order.Basic

/-! # Binary heaps

What `BinaryHeap` promises, whatever its representation: it holds a multiset, and
`pop` takes a maximum of it under the order of the items.  Nothing is promised about
which of several maxima comes first.  `drain` pops until the heap is empty, and items
that are strictly ordered are drained in that order.
-/

namespace PaymentsEngine.Library

structure BinaryHeap (Item : Type) (cmp : Item → Item → Ordering) where
  Carrier : Type
  new : Carrier
  push : Item → Carrier → Carrier
  pop : Carrier → Option (Item × Carrier)
  len : Carrier → Nat
  contents : Carrier → Multiset Item
  contents_new : contents new = 0
  contents_push : ∀ item heap, contents (push item heap) = item ::ₘ contents heap
  len_eq : ∀ heap, len heap = (contents heap).card
  contents_pop_none : ∀ heap, pop heap = none → contents heap = 0
  contents_pop_some : ∀ heap item rest, pop heap = some (item, rest) →
    contents heap = item ::ₘ contents rest
  pop_max : ∀ heap item rest, pop heap = some (item, rest) →
    ∀ other ∈ contents rest, cmp other item ≠ .gt

namespace BinaryHeap

variable {Item : Type} {cmp : Item → Item → Ordering} (self : BinaryHeap Item cmp)

theorem len_pop {heap rest : self.Carrier} {item : Item}
    (popped : self.pop heap = some (item, rest)) : self.len rest < self.len heap := by
  rw [self.len_eq, self.len_eq, self.contents_pop_some _ _ _ popped, Multiset.card_cons]
  exact Nat.lt_succ_self _

theorem pop_of_empty {heap : self.Carrier} (empty : self.contents heap = 0) :
    self.pop heap = none := by
  cases popped : self.pop heap with
  | none => rfl
  | some pair =>
    have grown := self.contents_pop_some heap pair.1 pair.2 popped
    rw [empty] at grown
    exact absurd grown.symm (Multiset.cons_ne_zero)

/-- Pop until the heap is empty. -/
def drain (heap : self.Carrier) : List Item × self.Carrier :=
  match _ : self.pop heap with
  | none => ([], heap)
  | some (item, rest) =>
    let drained := drain rest
    (item :: drained.1, drained.2)
termination_by self.len heap
decreasing_by exact self.len_pop (by assumption)

theorem drain_none {heap : self.Carrier} (popped : self.pop heap = none) :
    self.drain heap = ([], heap) := by
  rw [drain]
  split
  next => rfl
  next item rest found => rw [popped] at found; cases found

theorem drain_some {heap rest : self.Carrier} {item : Item}
    (popped : self.pop heap = some (item, rest)) :
    self.drain heap = (item :: (self.drain rest).1, (self.drain rest).2) := by
  conv_lhs => rw [drain]
  split
  next found => rw [popped] at found; cases found
  next other after found =>
    rw [popped] at found
    cases found
    rfl

/-- Draining takes everything out, once. -/
theorem drain_contents (heap : self.Carrier) :
    ((self.drain heap).1 : Multiset Item) = self.contents heap ∧
      self.contents (self.drain heap).2 = 0 := by
  induction heap using drain.induct self with
  | case1 heap popped =>
    rw [self.drain_none popped, self.contents_pop_none heap popped]
    exact ⟨rfl, rfl⟩
  | case2 heap item rest popped ih =>
    rw [self.drain_some popped, self.contents_pop_some _ _ _ popped, ← ih.1]
    exact ⟨rfl, ih.2⟩

/-- The first of strictly ordered items is popped first. -/
theorem pop_of_sorted {heap rest : self.Carrier} {items : List Item} {item : Item}
    (contents : self.contents heap = items)
    (sorted : items.Pairwise fun earlier later => cmp earlier later = .gt)
    (popped : self.pop heap = some (item, rest)) :
    ∃ others, items = item :: others ∧ self.contents rest = others := by
  have split := self.contents_pop_some _ _ _ popped
  rw [contents] at split
  cases items with
  | nil => exact absurd split.symm Multiset.cons_ne_zero
  | cons first others =>
    rw [List.pairwise_cons] at sorted
    obtain ⟨greatest, _⟩ := sorted
    rw [← Multiset.cons_coe] at split
    -- Another item than the first would have to be both above and not above it.
    have same : item = first := by
      by_contra different
      have firstRemains : first ∈ self.contents rest := by
        have member : first ∈ item ::ₘ self.contents rest := split ▸ Multiset.mem_cons_self first _
        exact (Multiset.mem_cons.mp member).resolve_left (Ne.symm different)
      have itemLater : item ∈ others := by
        have member : item ∈ first ::ₘ (others : Multiset Item) :=
          split ▸ Multiset.mem_cons_self item _
        exact (Multiset.mem_cons.mp member).resolve_left different
      exact self.pop_max _ _ _ popped first firstRemains (greatest item itemLater)
    subst same
    exact ⟨others, rfl, ((Multiset.cons_inj_right _).mp split).symm⟩

/-- Strictly ordered items come out in their order. -/
theorem drain_of_sorted {heap : self.Carrier} {items : List Item}
    (contents : self.contents heap = items)
    (sorted : items.Pairwise fun earlier later => cmp earlier later = .gt) :
    (self.drain heap).1 = items := by
  -- The heap gives out the first item, and what it keeps are the others, sorted as before.
  induction items generalizing heap with
  | nil => rw [self.drain_none (self.pop_of_empty contents)]
  | cons first items ih =>
    cases popped : self.pop heap with
    | none =>
      have empty := self.contents_pop_none heap popped
      rw [contents, Multiset.coe_eq_zero] at empty
      cases empty
    | some pair =>
      obtain ⟨item, rest⟩ := pair
      obtain ⟨others, split, remaining⟩ := self.pop_of_sorted contents sorted popped
      cases split
      rw [self.drain_some popped, ih remaining (List.pairwise_cons.mp sorted).2]

/-- Nothing is drained before something greater. -/
theorem drain_descending (heap : self.Carrier) :
    (self.drain heap).1.Pairwise fun earlier later => cmp later earlier ≠ .gt := by
  induction heap using drain.induct self with
  | case1 heap popped =>
    rw [self.drain_none popped]
    exact .nil
  | case2 heap item rest popped ih =>
    rw [self.drain_some popped, List.pairwise_cons]
    refine ⟨?_, ih⟩
    intro later member
    -- What is drained later is still in the heap when `item` is popped.
    apply self.pop_max heap item rest popped
    rw [← (self.drain_contents rest).1]
    exact Multiset.mem_coe.mpr member

/-- Items no two of which are equal are drained in strictly descending order. -/
theorem drain_strict [Std.OrientedCmp cmp] {heap : self.Carrier}
    (distinct : (self.drain heap).1.Pairwise fun earlier later => cmp earlier later ≠ .eq) :
    (self.drain heap).1.Pairwise fun earlier later => cmp earlier later = .gt := by
  apply ((self.drain_descending heap).and distinct).imp
  intro earlier later ⟨notAbove, notEqual⟩
  have swapped : cmp later earlier = (cmp earlier later).swap := Std.OrientedCmp.eq_swap
  cases order : cmp earlier later with
  | gt => rfl
  | eq => exact absurd order notEqual
  | lt => rw [order] at swapped; exact absurd swapped notAbove

/-- Push items one after the other. -/
def pushAll (heap : self.Carrier) (items : List Item) : self.Carrier :=
  items.foldl (fun heap item => self.push item heap) heap

theorem contents_pushAll (heap : self.Carrier) (items : List Item) :
    self.contents (self.pushAll heap items) = self.contents heap + (items : Multiset Item) := by
  induction items generalizing heap with
  | nil => exact (Multiset.add_zero _).symm
  | cons item items ih =>
    have pushed := ih (self.push item heap)
    rw [self.contents_push, Multiset.cons_add, ← Multiset.add_cons, Multiset.cons_coe] at pushed
    exact pushed

end BinaryHeap

/-! ## A heap kept as a list -/

namespace ListHeap

variable {Item : Type} (cmp : Item → Item → Ordering)

/-- A maximum of a nonempty list and the other items. -/
def extractMax (best : Item) : List Item → Item × List Item
  | [] => (best, [])
  | item :: items =>
    if cmp item best = .gt then
      let found := extractMax item items
      (found.1, best :: found.2)
    else
      let found := extractMax best items
      (found.1, item :: found.2)

theorem extractMax_contents (best : Item) (items : List Item) :
    ((best :: items : List Item) : Multiset Item) =
      (extractMax cmp best items).1 ::ₘ ((extractMax cmp best items).2 : Multiset Item) := by
  induction items generalizing best with
  | nil => rfl
  | cons item items ih =>
    rw [extractMax]
    split
    · have rest := ih item
      rw [← Multiset.cons_coe, rest, Multiset.cons_swap]
      rfl
    · have rest := ih best
      rw [← Multiset.cons_coe, ← Multiset.cons_coe, Multiset.cons_swap, Multiset.cons_coe, rest,
        Multiset.cons_swap]
      rfl

theorem le_extractMax [Std.TransCmp cmp] (best : Item) (items : List Item) :
    ∀ other ∈ best :: items, (cmp other (extractMax cmp best items).1).isLE := by
  -- Induction on the items that are still to be compared with the best so far.
  induction items generalizing best with
  | nil =>
    intro other member
    rw [List.mem_singleton] at member
    subst member
    have equal : cmp other other = .eq := Std.ReflCmp.compare_self
    rw [extractMax, equal]
    rfl
  | cons item items ih =>
    intro other member
    rw [extractMax]
    split
    next greater =>
      obtain same | rest := List.mem_cons.mp member
      · subst same
        have swapped : cmp other item = (cmp item other).swap := Std.OrientedCmp.eq_swap
        have below : (cmp other item).isLE := by rw [swapped, greater]; rfl
        exact Std.TransCmp.isLE_trans below (ih item item List.mem_cons_self)
      · exact ih item other rest
    next notGreater =>
      obtain same | rest := List.mem_cons.mp member
      · subst same; exact ih other other List.mem_cons_self
      · obtain same | rest := List.mem_cons.mp rest
        · subst same
          have below : (cmp other best).isLE := by
            cases order : cmp other best with
            | lt | eq => rfl
            | gt => exact absurd order notGreater
          exact Std.TransCmp.isLE_trans below (ih best best List.mem_cons_self)
        · exact ih best other (List.mem_cons_of_mem _ rest)

end ListHeap

/-- The heap that keeps its items in a list and searches it for a maximum. -/
def listHeap {Item : Type} (cmp : Item → Item → Ordering) [Std.TransCmp cmp] :
    BinaryHeap Item cmp where
  Carrier := List Item
  new := []
  push := List.cons
  pop
    | [] => none
    | item :: items => some (ListHeap.extractMax cmp item items)
  len := List.length
  contents := fun items => items
  contents_new := rfl
  contents_push := fun _ _ => rfl
  len_eq := fun _ => rfl
  contents_pop_none := by
    intro heap popped
    cases heap with
    | nil => rfl
    | cons item items => cases popped
  contents_pop_some := by
    intro heap item rest popped
    cases heap with
    | nil => cases popped
    | cons first items =>
      have found := Option.some.inj popped
      rw [ListHeap.extractMax_contents cmp first items, found]
  pop_max := by
    intro heap item rest popped other member greater
    cases heap with
    | nil => cases popped
    | cons first items =>
      have found := Option.some.inj popped
      have member : other ∈ ((first :: items : List Item) : Multiset Item) := by
        rw [ListHeap.extractMax_contents cmp first items, found]
        exact Multiset.mem_cons_of_mem member
      have below := ListHeap.le_extractMax cmp first items other (Multiset.mem_coe.mp member)
      rw [found, greater] at below
      cases below

end PaymentsEngine.Library
