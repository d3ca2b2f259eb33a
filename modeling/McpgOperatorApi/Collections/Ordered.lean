import Mathlib.Data.Finset.Card
import Mathlib.Data.List.Destutter
import Mathlib.Data.List.Sort
import Mathlib.Tactic.Common

namespace Collections

universe u

variable {α : Type u} [LinearOrder α]

/-!
# Sorting followed by adjacent deduplication

Removing equal neighbours does not remove duplicates in general.  Behind a
sort it does: the result is strictly increasing, and it has the members of
the input.  A strictly increasing list is determined by its members, so the
result depends on nothing but the *set* of inputs.  Order, repetition and the
stability of the sort are all invisible in it.
-/

/-- Sort, then drop every element equal to its left neighbour. -/
def sortDedup (values : List α) : List α :=
  (values.mergeSort (fun a b => decide (a ≤ b))).destutter (· ≠ ·)

/-- Strictly increasing lists with the same members are equal. -/
theorem eq_of_mem_iff {left right : List α} (leftIncreasing : left.Pairwise (· < ·))
    (rightIncreasing : right.Pairwise (· < ·)) (members : ∀ x, x ∈ left ↔ x ∈ right) :
    left = right := by
  have leftNodup : left.Nodup := leftIncreasing.imp ne_of_lt
  have rightNodup : right.Nodup := rightIncreasing.imp ne_of_lt
  have permutation : left.Perm right :=
    (List.perm_ext_iff_of_nodup leftNodup rightNodup).mpr members
  exact permutation.eq_of_pairwise
    (fun a b _ _ before after => absurd before (lt_asymm after)) leftIncreasing rightIncreasing

/-- In a sorted list, a chain of distinct neighbours is strictly increasing. -/
theorem pairwise_lt_of_isChain_ne {values : List α} (sorted : values.Pairwise (· ≤ ·))
    (chain : values.IsChain (· ≠ ·)) : values.Pairwise (· < ·) := by
  rw [← List.isChain_iff_pairwise]
  induction values with
  | nil => exact List.IsChain.nil
  | cons first rest ih =>
      cases rest with
      | nil => exact List.IsChain.singleton first
      | cons second rest =>
          rw [List.isChain_cons_cons] at chain ⊢
          have before : first ≤ second := List.rel_of_pairwise_cons sorted List.mem_cons_self
          exact ⟨lt_of_le_of_ne before chain.1, ih sorted.of_cons chain.2⟩

/-- Adjacent deduplication keeps a representative of every element. -/
private theorem mem_destutter'_of_mem {x : α} {values : List α} :
    ∀ {head : α}, x ∈ head :: values → x ∈ values.destutter' (· ≠ ·) head := by
  induction values with
  | nil =>
      intro head member
      simpa using member
  | cons next rest ih =>
      intro head member
      by_cases equal : head = next
      · subst next
        rw [List.destutter'_cons_neg _ (by simp)]
        exact ih (by simpa using member)
      · rw [List.destutter'_cons_pos _ equal]
        rcases List.mem_cons.mp member with first | later
        · exact List.mem_cons.mpr (Or.inl first)
        · exact List.mem_cons.mpr (Or.inr (ih later))

theorem mem_destutter_ne (x : α) (values : List α) :
    x ∈ values.destutter (· ≠ ·) ↔ x ∈ values := by
  constructor
  · exact fun member => (List.destutter_sublist _ values).subset member
  · intro member
    cases values with
    | nil => cases member
    | cons head rest => exact mem_destutter'_of_mem member

/-- No element is lost and none is invented. -/
@[simp] theorem mem_sortDedup (x : α) (values : List α) : x ∈ sortDedup values ↔ x ∈ values := by
  rw [sortDedup, mem_destutter_ne]
  exact (List.mergeSort_perm values _).mem_iff

/-- Behind a sort, adjacent deduplication leaves no duplicates at all. -/
theorem destutter_increasing {sorted : List α} (ascending : sorted.Pairwise (· ≤ ·)) :
    (sorted.destutter (· ≠ ·)).Pairwise (· < ·) :=
  pairwise_lt_of_isChain_ne (ascending.sublist (List.destutter_sublist _ _))
    (List.isChain_destutter _ _)

/-- The result is strictly increasing, hence free of duplicates. -/
theorem sortDedup_increasing (values : List α) : (sortDedup values).Pairwise (· < ·) := by
  apply destutter_increasing
  have transitive : ∀ a b c : α, decide (a ≤ b) → decide (b ≤ c) → decide (a ≤ c) := by
    intro a b c ab bc
    rw [decide_eq_true_eq] at *
    exact le_trans ab bc
  have total : ∀ a b : α, decide (a ≤ b) || decide (b ≤ a) := by
    intro a b
    rw [Bool.or_eq_true, decide_eq_true_eq, decide_eq_true_eq]
    exact le_total a b
  have pairs := List.pairwise_mergeSort transitive total values
  exact pairs.imp (fun related => of_decide_eq_true related)

/-- Any other sort, stable or not, leads to the same result. -/
theorem destutter_eq_sortDedup {sorted values : List α} (same : sorted.Perm values)
    (ascending : sorted.Pairwise (· ≤ ·)) : sorted.destutter (· ≠ ·) = sortDedup values := by
  apply eq_of_mem_iff (destutter_increasing ascending) (sortDedup_increasing values)
  intro x
  rw [mem_destutter_ne, mem_sortDedup, same.mem_iff]

/-- The result is as long as there are different inputs. -/
theorem length_sortDedup [DecidableEq α] (values : List α) :
    (sortDedup values).length = values.toFinset.card := by
  have nodup : (sortDedup values).Nodup := (sortDedup_increasing values).imp ne_of_lt
  rw [← List.toFinset_card_of_nodup nodup]
  apply congrArg Finset.card
  ext x
  rw [List.mem_toFinset, List.mem_toFinset, mem_sortDedup]

/-- The result is a function of the set of inputs alone. -/
theorem sortDedup_congr {left right : List α} (members : ∀ x, x ∈ left ↔ x ∈ right) :
    sortDedup left = sortDedup right := by
  apply eq_of_mem_iff (sortDedup_increasing left) (sortDedup_increasing right)
  intro x
  rw [mem_sortDedup, mem_sortDedup, members]

end Collections
