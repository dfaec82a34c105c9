import Mathlib.Data.List.Basic

/-!
Queues of numbered items, from which a reader takes a first part and discards what lies below an offset.
-/

namespace OneVoice.Library

open List

variable {Item : Type*} {number : Item → Nat} {items : List Item}

/-- The items stand in the order of their numbers. -/
def Ordered (number : Item → Nat) (items : List Item) : Prop :=
  items.Pairwise fun first second => number first < number second

/-- An offset discards the items below it. -/
def discard (number : Item → Nat) (offset : Nat) (items : List Item) : List Item :=
  items.filter fun item => offset ≤ number item

@[simp]
theorem mem_discard {offset item} : item ∈ discard number offset items ↔ item ∈ items ∧ offset ≤ number item := by
  simp [discard]

namespace Ordered

section

variable (ordered : Ordered number items)

include ordered

theorem filter (keep : Item → Bool) : Ordered number (items.filter keep) := List.Pairwise.filter keep ordered

theorem discard (offset : Nat) : Ordered number (discard number offset items) := ordered.filter _

theorem take (count : Nat) : Ordered number (items.take count) :=
  List.Pairwise.sublist (take_sublist count items) ordered

/-- A larger item goes to the end. -/
theorem snoc {item} (larger : ∀ other ∈ items, number other < number item) : Ordered number (items ++ [item]) := by
  unfold Ordered
  rw [pairwise_append]
  refine ⟨ordered, pairwise_singleton _ _, fun other member last same => ?_⟩
  rw [mem_singleton.mp same]
  exact larger other member

end

/-- What stands before an item of a first part is in the first part. -/
theorem mem_of_append {first second} (ordered : Ordered number (first ++ second)) {item last}
    (member : item ∈ first ++ second) (taken : last ∈ first) (before : number item ≤ number last) : item ∈ first := by
  rcases mem_append.mp member with here | later
  · exact here
  · have after := (pairwise_append.mp ordered).2.2 last taken item later
    omega

theorem mem_take (ordered : Ordered number items) {item last count} (member : item ∈ items)
    (taken : last ∈ items.take count) (before : number item ≤ number last) : item ∈ items.take count := by
  have whole := take_append_drop count items
  rw [← whole] at ordered member
  exact ordered.mem_of_append member taken before

end Ordered

end OneVoice.Library
