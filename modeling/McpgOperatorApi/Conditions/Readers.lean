import McpgOperatorApi.Conditions.Runs

namespace McpgOperatorApi

open Collections

variable {τ : Type}

/-!
# Readers of conditions

Clients wait for a condition such as `Ready` by looking for any entry of that
type whose status is `True`, while `setCondition` only ever updates the first
entry of a type.  The two agree as long as no entry behind the first one of its
type says `True`.  A run of calls neither adds such entries nor removes them.
-/

/-- Some condition of the type has the status `True`. -/
def reportsTrue (type : String) (conditions : List (Condition τ)) : Bool :=
  conditions.any fun c => c.type == type && c.status == "True"

/-- The conditions of a type that calls do not reach. -/
def shadowedConditions (type : String) (conditions : List (Condition τ)) : List (Condition τ) :=
  shadowed Condition.type type conditions

/-- A reader sees the condition of the type and the shadowed ones. -/
theorem reportsTrue_iff (type : String) (conditions : List (Condition τ)) :
    reportsTrue type conditions = true ↔
      (∃ c, conditionOf type conditions = some c ∧ c.status = "True") ∨
        ∃ c ∈ shadowedConditions type conditions, c.status = "True" := by
  have seen : reportsTrue type conditions = true ↔
      ∃ c ∈ updatesOf Condition.type type conditions, c.status = "True" := by
    simp [reportsTrue, updatesOf, and_assoc]
  rw [seen, updatesOf_eq_append, shadowedConditions, conditionOf]
  simp only [List.mem_append, Option.mem_toList, or_and_right, exists_or]

/-- No run reaches the shadowed conditions. -/
theorem shadowedConditions_setConditions (type : String) (conditions calls : List (Condition τ)) :
    shadowedConditions type (setConditions conditions calls) = shadowedConditions type conditions := by
  rw [setConditions_eq_upsertAll]
  exact shadowed_upsertAll type_refresh type conditions calls

/-- Pairwise different types leave nothing in the shadow. -/
theorem shadowedConditions_of_nodup {type : String} {conditions : List (Condition τ)}
    (distinct : (conditions.map Condition.type).Nodup) : shadowedConditions type conditions = [] := by
  have few : (updatesOf Condition.type type conditions).length ≤ 1 := by
    have count : (updatesOf Condition.type type conditions).length =
        (conditions.map Condition.type).count type := by
      rw [updatesOf, List.count, List.countP_map, List.countP_eq_length_filter]
      apply congrArg List.length
      apply List.filter_congr
      intro c _
      exact (beq_eq_decide _ _).symm
    rw [count]
    exact List.nodup_iff_count_le_one.mp distinct type
  rw [shadowedConditions, shadowed]
  apply List.eq_nil_of_length_eq_zero
  rw [List.length_tail]
  omega

/-- After a run, the condition of a called type has the status of its last
call. -/
theorem status_conditionOf_setConditions {type : String} {calls : List (Condition τ)}
    {last : Condition τ} (ends : (callsOf type calls).getLast? = some last)
    (conditions : List (Condition τ)) :
    ∃ c, conditionOf type (setConditions conditions calls) = some c ∧ c.status = last.status := by
  rcases List.getLast?_eq_some_iff.mp ends with ⟨earlier, split⟩
  have register := firstOf_upsertAll type_refresh type conditions calls
  change updatesOf Condition.type type calls = earlier ++ [last] at split
  rw [split, Stamped.foldl_refresh, ← setConditions_eq_upsertAll] at register
  exact ⟨_, register, rfl⟩

/-- What a reader makes of the conditions that a run of calls leaves. -/
structure ReaderLaws (type : String) (conditions : List (Condition τ)) : Prop where
  /-- A reader hears the last call, and the shadowed conditions beside it. -/
  called : ∀ calls last, (callsOf type calls).getLast? = some last →
    (reportsTrue type (setConditions conditions calls) = true ↔
      last.status = "True" ∨ ∃ c ∈ shadowedConditions type conditions, c.status = "True")
  /-- Calls of other types are not heard. -/
  uncalled : ∀ calls, callsOf type calls = [] →
    reportsTrue type (setConditions conditions calls) = reportsTrue type conditions
  /-- A reader follows the last call of every run exactly when no shadowed
  condition says `True`. -/
  reliable : (∀ calls last, (callsOf type calls).getLast? = some last →
      (reportsTrue type (setConditions conditions calls) = true ↔ last.status = "True")) ↔
    ∀ c ∈ shadowedConditions type conditions, c.status ≠ "True"
  /-- This is the case, and stays so, when the types are pairwise different. -/
  distinct : (conditions.map Condition.type).Nodup →
    ∀ calls, shadowedConditions type (setConditions conditions calls) = []

variable (type : String) (conditions : List (Condition τ))

theorem reportsTrue_of_called {calls : List (Condition τ)} {last : Condition τ}
    (ends : (callsOf type calls).getLast? = some last) :
    reportsTrue type (setConditions conditions calls) = true ↔
      last.status = "True" ∨ ∃ c ∈ shadowedConditions type conditions, c.status = "True" := by
  rcases status_conditionOf_setConditions ends conditions with ⟨c, held, status⟩
  rw [reportsTrue_iff, shadowedConditions_setConditions, held, ← status]
  simp

/-- The laws hold for every type and every list of conditions. -/
theorem readerLaws : ReaderLaws type conditions where
  called _ _ ends := reportsTrue_of_called type conditions ends
  uncalled calls silent := by
    have held : conditionOf type (setConditions conditions calls) = conditionOf type conditions := by
      rw [conditionOf, setConditions_eq_upsertAll, firstOf_upsertAll type_refresh]
      change (callsOf type calls).foldl _ _ = _
      rw [silent]
      rfl
    rw [Bool.eq_iff_iff, reportsTrue_iff, reportsTrue_iff, held, shadowedConditions_setConditions]
  reliable := by
    constructor
    · intro follows c hidden status
      -- Under a last call that says `False`, the shadowed condition is still heard.
      have ofType : c.type = type := by
        have listed := List.mem_of_mem_tail hidden
        exact of_decide_eq_true (List.mem_filter.mp listed).2
      have ends : (callsOf type [{ c with status := "False" }]).getLast? =
          some { c with status := "False" } := by
        simp [callsOf, updatesOf, ofType]
      have heard := (reportsTrue_of_called type conditions ends).mpr (Or.inr ⟨c, hidden, status⟩)
      have denied : "False" = "True" := (follows _ _ ends).mp heard
      exact absurd denied (by decide)
    · intro quiet calls last ends
      rw [reportsTrue_of_called type conditions ends, or_iff_left_iff_imp]
      intro heard
      rcases heard with ⟨c, hidden, status⟩
      exact absurd status (quiet c hidden)
  distinct nodup calls := by
    rw [shadowedConditions_setConditions, shadowedConditions_of_nodup nodup]

end McpgOperatorApi
