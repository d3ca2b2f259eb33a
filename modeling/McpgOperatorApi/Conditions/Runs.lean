import McpgOperatorApi.Conditions.History
import McpgOperatorApi.Collections.Runs

namespace McpgOperatorApi

open Collections

variable {τ : Type}

/-!
# Runs of calls compared

A reconcile pass calls `setCondition` once for each condition it reports.
This module compares passes: one whose calls are ordered in another way, one
that repeats an earlier pass at another time, and passes under a clock, where
each call is made later than everything already stored.
-/

/-- The same calls, built at other times. -/
def SamePass (first second : List (Condition τ)) : Prop :=
  (transitions τ).Restamped first second

/-- Every call is built after the stored conditions and the earlier calls. -/
def CalledUnder (after : τ → τ → Prop) (conditions calls : List (Condition τ)) : Prop :=
  (transitions τ).Clocked after conditions calls

theorem setConditions_append (conditions earlier later : List (Condition τ)) :
    setConditions conditions (earlier ++ later) =
      setConditions (setConditions conditions earlier) later :=
  List.foldl_append

/-- A clock stays ahead of the conditions it has led to. -/
theorem CalledUnder.resume {after : τ → τ → Prop} {conditions earlier later : List (Condition τ)}
    (clock : CalledUnder after conditions (earlier ++ later)) :
    CalledUnder after (setConditions conditions earlier) later := by
  rw [setConditions_eq_upsertAll]
  exact Stamped.Clocked.upsertAll clock

/-- A time that is stored after a run is no later than the next call. -/
theorem CalledUnder.stored {after : τ → τ → Prop} {conditions earlier : List (Condition τ)}
    {next c : Condition τ} (clock : CalledUnder after conditions (earlier ++ [next]))
    (listed : c ∈ setConditions conditions earlier) :
    after c.lastTransitionTime next.lastTransitionTime :=
  clock.resume.1 c listed next List.mem_cons_self

/-- Calls of different types do not interfere.  When each type is called in
the same order, two passes agree on the condition of every type and on the
stored list, and add the same conditions; they agree outright exactly when
they add the missing types in the same order. -/
theorem setConditions_interleaving {first second : List (Condition τ)}
    (same : ∀ type, callsOf type first = callsOf type second) (conditions : List (Condition τ)) :
    (∀ type, conditionOf type (setConditions conditions first) =
      conditionOf type (setConditions conditions second)) ∧
    (setConditions conditions first).take conditions.length =
      (setConditions conditions second).take conditions.length ∧
    (setConditions conditions first).Perm (setConditions conditions second) ∧
    (setConditions conditions first = setConditions conditions second ↔
      addedTypes conditions first = addedTypes conditions second) := by
  rw [setConditions_eq_upsertAll, setConditions_eq_upsertAll]
  refine ⟨?registers, ?stored, ?permuted, ?order⟩
  case registers =>
    intro type
    exact firstOf_upsertAll_congr type_refresh same type conditions
  case stored => exact take_upsertAll_congr type_refresh same conditions
  case permuted => exact perm_upsertAll type_refresh same conditions
  case order =>
    constructor
    · intro equal
      have columns := congrArg (List.map Condition.type) equal
      rw [keys_upsertAll type_refresh, keys_upsertAll type_refresh] at columns
      exact List.append_cancel_left columns
    · exact upsertAll_congr type_refresh same

theorem setConditions_interleaving_two_types :
    (setConditions [] [Condition.readyTrue "Serving" 1, .new "Synced" "True" "Ok" "" none 2]).Perm
      (setConditions [] [.new "Synced" "True" "Ok" "" none 2, Condition.readyTrue "Serving" 1]) := by
  have same : ∀ type, callsOf type [Condition.readyTrue "Serving" 1, .new "Synced" "True" "Ok" "" none 2] =
      callsOf type [.new "Synced" "True" "Ok" "" none 2, Condition.readyTrue "Serving" 1] := by
    intro type
    by_cases ready : "Ready" = type
    · simp [callsOf, updatesOf, Condition.readyTrue, Condition.new, ← ready]
    · simp [callsOf, updatesOf, Condition.readyTrue, Condition.new, List.filter_cons, ready]
  exact (setConditions_interleaving same []).2.2.1

/-- A pass can be repeated at any later time without touching the list
exactly when it never gives one type two statuses. -/
theorem setConditions_repeated_iff [Nontrivial τ] (conditions pass : List (Condition τ)) :
    (∀ again, SamePass pass again →
      setConditions (setConditions conditions pass) again = setConditions conditions pass) ↔
    ∀ c ∈ pass, ∀ other ∈ pass, c.type = other.type → c.status = other.status := by
  simp only [setConditions_eq_upsertAll]
  exact upsertAll_repeated_iff type_refresh (fun _ _ => rfl) (fun _ _ _ => rfl) conditions pass

/-- A gateway that serves, the same one crashing, and on its way back. -/
def serving : Condition Nat := .readyTrue "Serving" 1

def crashing : Condition Nat := .readyFalse "Crashing" "back-off" 2

def restarting : Condition Nat := .readyFalse "Restarting" "back-off" 3

def recovered : Condition Nat := .readyTrue "Serving" 3

/-- A pass that reports the same type twice, and another one in between. -/
def steadyPass (start : Nat) : List (Condition Nat) :=
  [.readyTrue "Serving" start, .new "Synced" "True" "Ok" "" none (start + 1),
    .readyTrue "Reconciled" (start + 2)]

theorem setConditions_repeated_steadyPass :
    setConditions (setConditions [crashing] (steadyPass 3)) (steadyPass 6) =
      setConditions [crashing] (steadyPass 3) := by
  have again : SamePass (steadyPass 3) (steadyPass 6) :=
    .cons ⟨6, rfl⟩ (.cons ⟨7, rfl⟩ (.cons ⟨8, rfl⟩ .nil))
  exact (setConditions_repeated_iff [crashing] (steadyPass 3)).mpr (by decide) _ again

/-- Under a clock, the time of a transition never moves back along a run and
never runs ahead of the calls.  A status that has changed carries the time of
a call in between that brought it. -/
theorem lastTransitionTime_along_run [Preorder τ] {conditions earlier later : List (Condition τ)}
    (clock : CalledUnder (· ≤ ·) conditions (earlier ++ later)) {i : Nat} {c c' : Condition τ}
    (before : (setConditions conditions earlier)[i]? = some c)
    (after : (setConditions conditions (earlier ++ later))[i]? = some c') :
    c'.type = c.type ∧ c.lastTransitionTime ≤ c'.lastTransitionTime ∧
      (∀ next, CalledUnder (· ≤ ·) conditions (earlier ++ later ++ [next]) →
        c'.lastTransitionTime ≤ next.lastTransitionTime) ∧
      (c'.status ≠ c.status → ∃ call ∈ later, call.type = c.type ∧ call.status = c'.status ∧
        call.lastTransitionTime = c'.lastTransitionTime) := by
  have bounded : ∀ next, CalledUnder (· ≤ ·) conditions (earlier ++ later ++ [next]) →
      c'.lastTransitionTime ≤ next.lastTransitionTime :=
    fun next longer => longer.stored (List.mem_of_getElem? after)
  rw [setConditions_append, setConditions_eq_upsertAll] at after
  rcases getElem?_upsertAll_cases type_refresh before after with rfl | ⟨calls, last, split, rfl⟩
  · exact ⟨rfl, le_refl _, bounded, fun changed => absurd rfl changed⟩
  · have ofType : ∀ call ∈ calls ++ [last], call ∈ later ∧ call.type = c.type := by
      intro call listed
      rw [← split] at listed
      exact ⟨(List.mem_filter.mp listed).1, of_decide_eq_true (List.mem_filter.mp listed).2⟩
    have ending : last ∈ calls ++ [last] := List.mem_append_right _ List.mem_cons_self
    refine ⟨(ofType last ending).2, ?_, bounded, ?_⟩
    · change (transitions τ).stamp c ≤ (transitions τ).heldSince (some c) (calls ++ [last]) last
      apply Stamped.stamp_le_heldSince
      intro call listed
      exact clock.resume.1 c (List.mem_of_getElem? before) call (ofType call listed).1
    · intro changed
      have moved : (transitions τ).level c ≠ (transitions τ).level last :=
        fun equal => changed equal.symm
      have brought : ∃ call ∈ calls ++ [last], call.status = last.status ∧
          (transitions τ).heldSince (some c) (calls ++ [last]) last = call.lastTransitionTime :=
        Stamped.exists_stamp_of_change moved
      rcases brought with ⟨call, listed, status, stamp⟩
      exact ⟨call, (ofType call listed).1, (ofType call listed).2, status, stamp.symm⟩

/-- A gateway that crashed carries the time of the first report of it. -/
theorem lastTransitionTime_along_run_ready :
    (setConditions [] [serving])[0]? = some serving ∧
      (setConditions [] ([serving] ++ [crashing, restarting]))[0]? =
        some { restarting with lastTransitionTime := 2 } ∧
      serving.lastTransitionTime ≤ 2 ∧
      ∃ call ∈ [crashing, restarting], call.type = serving.type ∧ call.status = restarting.status ∧
        call.lastTransitionTime = 2 := by
  have clock : CalledUnder (· ≤ ·) [] ([serving] ++ [crashing, restarting]) := by
    constructor
    · intro c listed
      cases listed
    · decide
  have before : (setConditions [] [serving])[0]? = some serving := rfl
  have after : (setConditions [] ([serving] ++ [crashing, restarting]))[0]? =
      some { restarting with lastTransitionTime := 2 } := rfl
  have along := lastTransitionTime_along_run clock before after
  exact ⟨before, after, along.2.1, along.2.2.2 (by decide)⟩

/-- Under a strict clock, a reader that finds the transition time of a type
unmoved knows that no call in between had another status. -/
theorem lastTransitionTime_eq_iff_held [Preorder τ] {conditions earlier later : List (Condition τ)}
    (clock : CalledUnder (· < ·) conditions (earlier ++ later)) {type : String} {c c' : Condition τ}
    (before : conditionOf type (setConditions conditions earlier) = some c)
    (after : conditionOf type (setConditions conditions (earlier ++ later)) = some c') :
    c'.lastTransitionTime = c.lastTransitionTime ↔
      ∀ call ∈ callsOf type later, call.status = c.status := by
  rw [setConditions_append, setConditions_eq_upsertAll, conditionOf, firstOf_upsertAll type_refresh]
    at after
  change firstOf Condition.type type (setConditions conditions earlier) = some c at before
  rw [before] at after
  rcases List.eq_nil_or_concat (updatesOf Condition.type type later) with none | ⟨calls, last, split⟩
  · rw [none] at after
    have unchanged : c' = c := (Option.some.inj after).symm
    rw [callsOf, none, unchanged]
    simp
  · rw [List.concat_eq_append] at split
    rw [split, Stamped.foldl_refresh] at after
    rw [callsOf, split, ← Option.some.inj after]
    apply Stamped.heldSince_eq_stamp_iff
    intro call listed
    rw [← split] at listed
    exact clock.resume.1 c (List.mem_of_find?_eq_some before) call
      (List.mem_filter.mp listed).1

/-- A gateway that went down and came back has a new time. -/
theorem lastTransitionTime_eq_iff_held_flapping :
    conditionOf "Ready" (setConditions [] [serving]) = some serving ∧
      conditionOf "Ready" (setConditions [] ([serving] ++ [crashing, recovered])) = some recovered ∧
      (recovered.lastTransitionTime = serving.lastTransitionTime ↔
        ∀ call ∈ callsOf "Ready" [crashing, recovered], call.status = serving.status) := by
  have clock : CalledUnder (· < ·) [] ([serving] ++ [crashing, recovered]) := by
    constructor
    · intro c listed
      cases listed
    · decide
  have before : conditionOf "Ready" (setConditions [] [serving]) = some serving := rfl
  have after : conditionOf "Ready" (setConditions [] ([serving] ++ [crashing, recovered])) =
      some recovered := rfl
  exact ⟨before, after, lastTransitionTime_eq_iff_held clock before after⟩

end McpgOperatorApi
