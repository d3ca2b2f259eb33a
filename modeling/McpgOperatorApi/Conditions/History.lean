import McpgOperatorApi.Conditions
import McpgOperatorApi.Collections.Upsert

namespace McpgOperatorApi

open Collections

variable {τ : Type}

/-!
# The history behind a list of conditions

`setCondition` is a keyed update in place: the key is the type, and merging
keeps the transition time of the stored condition while the status stays the
same.  The list after a run of calls is therefore described by the initial
list and, for each type, by the calls of that type alone.
-/

/-- The status of a condition, stamped with its transition time. -/
def transitions (τ : Type) : Stamped (Condition τ) String τ where
  level := Condition.status
  stamp := Condition.lastTransitionTime
  restamp c t := { c with lastTransitionTime := t }
  level_restamp _ _ := rfl
  stamp_restamp _ _ := rfl
  restamp_stamp _ := rfl

/-- Apply calls from left to right. -/
def setConditions (conditions calls : List (Condition τ)) : List (Condition τ) :=
  calls.foldl setCondition conditions

/-- The calls of one type. -/
def callsOf (type : String) (calls : List (Condition τ)) : List (Condition τ) :=
  updatesOf Condition.type type calls

/-- The types that a run adds, in the order of their first call. -/
def addedTypes (conditions calls : List (Condition τ)) : List String :=
  addedKeys Condition.type conditions calls

/-- The first condition of a type. -/
def conditionOf (type : String) (conditions : List (Condition τ)) : Option (Condition τ) :=
  firstOf Condition.type type conditions

/-- Merging keeps the type of the incoming condition. -/
theorem type_refresh (old new : Condition τ) (_ : old.type = new.type) :
    ((transitions τ).refresh old new).type = new.type := by
  rw [Stamped.refresh]
  split <;> rfl

/-- The update in place is the one of the library. -/
theorem setCondition_eq_upsert (conditions : List (Condition τ)) (new : Condition τ) :
    setCondition conditions new = upsert Condition.type (transitions τ).refresh new conditions := by
  induction conditions with
  | nil => rfl
  | cons first rest ih =>
      rw [setCondition, List.findIdx?_cons, upsert]
      by_cases same : first.type = new.type
      · rw [beq_iff_eq.mpr same, if_pos same]
        rfl
      · rw [beq_eq_false_iff_ne.mpr same, if_neg same, ← ih, setCondition]
        cases rest.findIdx? (fun c => c.type == new.type) <;> rfl

theorem setConditions_eq_upsertAll (conditions calls : List (Condition τ)) :
    setConditions conditions calls =
      upsertAll Condition.type (transitions τ).refresh conditions calls := by
  have step : (setCondition : List (Condition τ) → Condition τ → List (Condition τ)) =
      fun acc c => upsert Condition.type (transitions τ).refresh c acc :=
    funext fun acc => funext fun c => setCondition_eq_upsert acc c
  rw [setConditions, step, upsertAll]

/-- How the list `final` comes out of an initial list and a run of calls. -/
structure History (conditions calls final : List (Condition τ)) : Prop where
  /-- The initial types stay in place, and the added ones follow. -/
  types : final.map Condition.type = conditions.map Condition.type ++ addedTypes conditions calls
  /-- Each missing type is added once. -/
  added : (addedTypes conditions calls).Nodup ∧
    ∀ type, type ∈ addedTypes conditions calls ↔
      type ∈ calls.map Condition.type ∧ type ∉ conditions.map Condition.type
  /-- Conditions that are not the first of a called type do not change. -/
  untouched : ∀ (i : Nat) (c : Condition τ), conditions[i]? = some c →
    (c.type ∉ calls.map Condition.type ∨
      ∃ (j : Nat) (earlier : Condition τ), j < i ∧ conditions[j]? = some earlier ∧ earlier.type = c.type) →
    final[i]? = some c
  /-- The first condition of a called type is the last call, stamped with the
  time since when its status has been held. -/
  latest : ∀ type, type ∈ calls.map Condition.type → ∃ last,
    (callsOf type calls).getLast? = some last ∧
      conditionOf type final = some
        { last with
          lastTransitionTime := (transitions τ).heldSince (conditionOf type conditions)
            (callsOf type calls) last }
  /-- Pairwise different types stay pairwise different. -/
  distinct : (conditions.map Condition.type).Nodup → (final.map Condition.type).Nodup

/-- The calls of a called type end with a last one. -/
theorem exists_callsOf_concat {type : String} {calls : List (Condition τ)}
    (called : type ∈ calls.map Condition.type) :
    ∃ earlier last, callsOf type calls = earlier ++ [last] := by
  rcases List.mem_map.mp called with ⟨c, listed, rfl⟩
  have nonempty : callsOf c.type calls ≠ [] :=
    List.ne_nil_of_mem (List.mem_filter.mpr ⟨listed, decide_eq_true rfl⟩)
  exact ⟨_, _, (List.dropLast_concat_getLast nonempty).symm⟩

/-- Every run of calls has the described history. -/
theorem history_setConditions (conditions calls : List (Condition τ)) :
    History conditions calls (setConditions conditions calls) := by
  rw [setConditions_eq_upsertAll]
  refine
    { types := keys_upsertAll type_refresh conditions calls
      added := ⟨nodup_addedKeys conditions calls, fun type => mem_addedKeys_iff type conditions calls⟩
      untouched := fun i c present untouched =>
        getElem?_upsertAll_of_untouched type_refresh calls present untouched
      latest := ?_
      distinct := nodup_keys_upsertAll type_refresh calls }
  intro type called
  rcases exists_callsOf_concat called with ⟨earlier, last, split⟩
  refine ⟨last, by rw [split, List.getLast?_concat], ?_⟩
  have register := firstOf_upsertAll type_refresh type conditions calls
  change updatesOf Condition.type type calls = earlier ++ [last] at split
  rw [split, Stamped.foldl_refresh] at register
  rw [callsOf, split]
  exact register

end McpgOperatorApi
