import Mathlib.Data.List.DropRight
import Mathlib.Data.List.Infix
import Mathlib.Data.List.Nodup
import Mathlib.Tactic.Common

namespace Collections

universe u v w

/-!
# Keyed updates in place, and how long a level has been held

A list of keyed records is updated by looking for the first record with the
key of the incoming one.  When there is one it is merged in place, otherwise
the incoming record is appended.  Records behind the first of their key are
never reached, and lists with duplicate keys are allowed.

A run of such updates decomposes by key: the first record of a key evolves as
a register of its own, fed with the updates of that key alone.  The second
half of the module describes one particular register, which remembers since
when the current level has been held.
-/

section Upsert

variable {κ : Type u} {α : Type v} [DecidableEq κ] (key : α → κ) (merge : α → α → α)

/-- Merge into the first record with the same key, or append. -/
def upsert (x : α) : List α → List α
  | [] => [x]
  | value :: rest => if key value = key x then merge value x :: rest else value :: upsert x rest

/-- Apply updates from left to right. -/
def upsertAll (values updates : List α) : List α :=
  updates.foldl (fun acc x => upsert key merge x acc) values

/-- The first record of a key. -/
def firstOf (k : κ) (values : List α) : Option α :=
  values.find? (fun value => key value = k)

/-- One update of the register of a key. -/
def registerStep (stored : Option α) (x : α) : Option α :=
  some (match stored with
    | none => x
    | some value => merge value x)

/-- The updates of one key, in order. -/
def updatesOf (k : κ) (updates : List α) : List α :=
  updates.filter (fun x => key x = k)

/-- The keys that a run adds, in the order of their first update. -/
def addedKeys (values updates : List α) : List κ :=
  ((updates.map key).filter (fun k => k ∉ values.map key)).eraseDups

variable {key merge} (keyMerge : ∀ old new, key old = key new → key (merge old new) = key new)

include keyMerge in
/-- An update keeps all keys in place and appends at most its own. -/
theorem keys_upsert (x : α) (values : List α) :
    (upsert key merge x values).map key =
      if key x ∈ values.map key then values.map key else values.map key ++ [key x] := by
  induction values with
  | nil => simp [upsert]
  | cons value rest ih =>
      rw [upsert]
      by_cases same : key value = key x
      · rw [if_pos same, List.map_cons, List.map_cons, keyMerge value x same, same,
          if_pos List.mem_cons_self]
      · rw [if_neg same, List.map_cons, ih, List.map_cons]
        by_cases later : key x ∈ rest.map key
        · rw [if_pos later, if_pos (List.mem_cons_of_mem _ later)]
        · have absent : key x ∉ key value :: rest.map key := by
            intro member
            rcases List.mem_cons.mp member with here | there
            · exact same here.symm
            · exact later there
          rw [if_neg later, if_neg absent, List.cons_append]

include keyMerge in
/-- An update of one key steps the register of that key and no other. -/
theorem firstOf_upsert (k : κ) (x : α) (values : List α) :
    firstOf key k (upsert key merge x values) =
      if key x = k then registerStep merge (firstOf key k values) x
      else firstOf key k values := by
  induction values with
  | nil =>
      by_cases same : key x = k
      · simp [firstOf, upsert, registerStep, same]
      · simp [firstOf, upsert, same]
  | cons value rest ih =>
      rw [upsert]
      by_cases hit : key value = key x
      · have merged := keyMerge value x hit
        by_cases same : key x = k
        · simp [firstOf, registerStep, hit, merged, same]
        · simp [firstOf, hit, merged, same]
      · rw [if_neg hit]
        by_cases here : key value = k
        · have other : key x ≠ k := fun same => hit (here.trans same.symm)
          simp [firstOf, here, other]
        · simp only [firstOf, List.find?_cons, here, decide_false] at ih ⊢
          exact ih

/-- An update leaves every record alone that is not the first of its key. -/
theorem getElem?_upsert_of_ne (x : α) {values : List α} {i : Nat} {value : α}
    (present : values[i]? = some value)
    (other : key value ≠ key x ∨
      ∃ j earlier, j < i ∧ values[j]? = some earlier ∧ key earlier = key value) :
    (upsert key merge x values)[i]? = some value := by
  induction values generalizing i with
  | nil => simp at present
  | cons first rest ih =>
      rw [upsert]
      cases i with
      | zero =>
          have different : key first ≠ key x := by
            rw [List.getElem?_cons_zero, Option.some.injEq] at present
            rcases other with different | ⟨j, _, before, _⟩
            · exact present ▸ different
            · exact absurd before (Nat.not_lt_zero j)
          rw [if_neg different]
          exact present
      | succ i =>
          rw [List.getElem?_cons_succ] at present
          by_cases hit : key first = key x
          · rw [if_pos hit]
            exact present
          · rw [if_neg hit, List.getElem?_cons_succ]
            apply ih present
            rcases other with different | ⟨j, earlier, before, there, equal⟩
            · exact Or.inl different
            · cases j with
              | zero =>
                  rw [List.getElem?_cons_zero, Option.some.injEq] at there
                  exact Or.inl (fun same => hit (there ▸ equal.trans same))
              | succ j => exact Or.inr ⟨j, earlier, by omega, there, equal⟩

private theorem eraseDups_concat (keys : List κ) (k : κ) :
    (keys ++ [k]).eraseDups = if k ∈ keys then keys.eraseDups else keys.eraseDups ++ [k] := by
  rw [List.eraseDups_append]
  by_cases listed : k ∈ keys
  · simp [List.removeAll, listed]
  · simp [List.removeAll, listed, List.eraseDups_cons]

/-- One more update adds its key unless it is already there. -/
theorem addedKeys_concat (values updates : List α) (x : α) :
    addedKeys key values (updates ++ [x]) =
      if key x ∈ values.map key ++ addedKeys key values updates
      then addedKeys key values updates else addedKeys key values updates ++ [key x] := by
  by_cases initial : key x ∈ values.map key
  · rw [if_pos (List.mem_append_left _ initial), addedKeys, List.map_append, List.filter_append,
      List.map_singleton, List.filter_cons_of_neg (by simpa using initial), List.filter_nil,
      List.append_nil, addedKeys]
  · have listed : key x ∈ values.map key ++ addedKeys key values updates ↔
        key x ∈ (updates.map key).filter (fun k => k ∉ values.map key) := by
      rw [List.mem_append, addedKeys, List.mem_eraseDups]
      exact or_iff_right initial
    simp only [listed]
    rw [addedKeys, List.map_append, List.filter_append, List.map_singleton,
      List.filter_cons_of_pos (by simpa using initial), List.filter_nil, eraseDups_concat, addedKeys]

include keyMerge in
/-- The key column of a run: the initial keys, then the added ones. -/
theorem keys_upsertAll (values updates : List α) :
    (upsertAll key merge values updates).map key = values.map key ++ addedKeys key values updates := by
  induction updates using List.reverseRecOn with
  | nil => simp [upsertAll, addedKeys]
  | append_singleton updates x ih =>
      have step : upsertAll key merge values (updates ++ [x]) =
          upsert key merge x (upsertAll key merge values updates) := by
        rw [upsertAll, List.foldl_append]
        rfl
      rw [step, keys_upsert keyMerge, ih, addedKeys_concat]
      split
      · rfl
      · rw [List.append_assoc]

include keyMerge in
/-- An update keeps distinct keys distinct. -/
theorem nodup_keys_upsert (x : α) {values : List α} (distinct : (values.map key).Nodup) :
    ((upsert key merge x values).map key).Nodup := by
  rw [keys_upsert keyMerge]
  split
  · exact distinct
  · rename_i fresh
    exact List.concat_eq_append ▸ List.Nodup.concat fresh distinct

include keyMerge in
/-- A run keeps distinct keys distinct. -/
theorem nodup_keys_upsertAll (updates : List α) {values : List α}
    (distinct : (values.map key).Nodup) : ((upsertAll key merge values updates).map key).Nodup := by
  induction updates generalizing values with
  | nil => exact distinct
  | cons x updates ih => exact ih (nodup_keys_upsert keyMerge x distinct)

/-- A run adds each key once. -/
theorem nodup_addedKeys (values updates : List α) : (addedKeys key values updates).Nodup := by
  induction updates using List.reverseRecOn with
  | nil => exact List.nodup_nil
  | append_singleton updates x ih =>
      rw [addedKeys_concat]
      split
      · exact ih
      · rename_i fresh
        have unlisted := fun listed => fresh (List.mem_append_right _ listed)
        exact List.concat_eq_append ▸ List.Nodup.concat unlisted ih

/-- A run adds exactly the updated keys that were missing. -/
theorem mem_addedKeys_iff (k : κ) (values updates : List α) :
    k ∈ addedKeys key values updates ↔ k ∈ updates.map key ∧ k ∉ values.map key := by
  rw [addedKeys, List.mem_eraseDups, List.mem_filter, decide_eq_true_iff]

include keyMerge in
/-- A run restricted to one key is a run of that key's register. -/
theorem firstOf_upsertAll (k : κ) (values updates : List α) :
    firstOf key k (upsertAll key merge values updates) =
      (updatesOf key k updates).foldl (registerStep merge) (firstOf key k values) := by
  induction updates generalizing values with
  | nil => rfl
  | cons x updates ih =>
      rw [upsertAll, List.foldl_cons]
      change firstOf key k (upsertAll key merge (upsert key merge x values) updates) = _
      rw [ih, firstOf_upsert keyMerge]
      by_cases same : key x = k
      · rw [if_pos same, updatesOf, updatesOf, List.filter_cons_of_pos (by simpa using same),
          List.foldl_cons]
      · rw [if_neg same, updatesOf, updatesOf, List.filter_cons_of_neg (by simpa using same)]

include keyMerge in
/-- A run leaves a record alone when its key is never updated, or when an
earlier record has the same key. -/
theorem getElem?_upsertAll_of_untouched (updates : List α) {values : List α} {i : Nat} {value : α}
    (present : values[i]? = some value)
    (untouched : key value ∉ updates.map key ∨
      ∃ j earlier, j < i ∧ values[j]? = some earlier ∧ key earlier = key value) :
    (upsertAll key merge values updates)[i]? = some value := by
  induction updates generalizing values with
  | nil => exact present
  | cons x updates ih =>
      rw [upsertAll, List.foldl_cons]
      change (upsertAll key merge (upsert key merge x values) updates)[i]? = some value
      have kept : (upsert key merge x values)[i]? = some value := by
        apply getElem?_upsert_of_ne x present
        apply untouched.imp_left
        intro never same
        exact never (same ▸ List.mem_cons_self)
      apply ih kept
      rcases untouched with never | ⟨j, earlier, before, there, equal⟩
      · exact Or.inl (fun later => never (List.mem_cons_of_mem _ later))
      · -- The earlier record may itself be merged, but keeps its key and position.
        apply Or.inr
        have column := congrArg (fun keys => keys[j]?) (keys_upsert keyMerge x values)
        have old : (values.map key)[j]? = some (key value) := by
          rw [List.getElem?_map, there, Option.map_some, equal]
        have inside : j < (values.map key).length := by
          by_contra outside
          rw [List.getElem?_eq_none (Nat.le_of_not_lt outside)] at old
          cases old
        have new : ((upsert key merge x values).map key)[j]? = some (key value) := by
          apply column.trans
          split
          · exact old
          · rw [List.getElem?_append_left inside, old]
        rw [List.getElem?_map] at new
        rcases Option.map_eq_some_iff.mp new with ⟨record, found, recordKey⟩
        exact ⟨j, record, before, found, recordKey⟩

end Upsert

section Held

variable {α : Type u} {σ : Type v} {τ : Type w} [DecidableEq σ]

/-- Records with a level and a stamp that can be replaced independently of
everything else the record holds. -/
structure Stamped (α : Type u) (σ : Type v) (τ : Type w) where
  level : α → σ
  stamp : α → τ
  restamp : α → τ → α
  level_restamp : ∀ x t, level (restamp x t) = level x
  stamp_restamp : ∀ x t, stamp (restamp x t) = t
  restamp_stamp : ∀ x, restamp x (stamp x) = x

namespace Stamped

variable (view : Stamped α σ τ)

/-- The incoming record replaces the stored one, but keeps the stored stamp
while the level stays the same. -/
def refresh (old new : α) : α :=
  if view.level old = view.level new then view.restamp new (view.stamp old) else new

/-- The longest run of updates at the end that all have the level of `last`. -/
def trailingRun (updates : List α) (last : α) : List α :=
  updates.rtakeWhile (fun x => view.level x = view.level last)

/-- Since when the level of `last` has been held: the stamp of the first
update of the trailing run, unless that run is the whole history and the
stored record already had the level. -/
def heldSince (stored : Option α) (updates : List α) (last : α) : τ :=
  let start := view.stamp ((view.trailingRun updates last).headD last)
  match stored with
  | none => start
  | some value =>
      if (view.trailingRun updates last).length = updates.length ∧
          view.level value = view.level last then view.stamp value
      else start

theorem trailingRun_concat (updates : List α) (last : α) :
    view.trailingRun (updates ++ [last]) last = view.trailingRun updates last ++ [last] := by
  rw [trailingRun, List.rtakeWhile_concat_pos _ _ _ (by simp)]
  rfl

theorem trailingRun_singleton (last : α) : view.trailingRun [last] last = [last] :=
  view.trailingRun_concat [] last

theorem trailingRun_congr {first second : α} (same : view.level first = view.level second)
    (updates : List α) : view.trailingRun updates first = view.trailingRun updates second := by
  rw [trailingRun, trailingRun, same]

/-- A change of level ends the trailing run. -/
theorem trailingRun_of_change {previous last : α}
    (changed : view.level previous ≠ view.level last) (updates : List α) :
    view.trailingRun (updates ++ [previous]) last = [] := by
  rw [trailingRun, List.rtakeWhile_concat_neg _ _ _ (by simpa using changed)]

private theorem headD_concat (run : List α) (last other : α) :
    (run ++ [last]).headD other = run.headD last := by
  cases run <;> rfl

/-- A change of level restarts the clock. -/
theorem heldSince_of_change (stored : Option α) {previous last : α}
    (changed : view.level previous ≠ view.level last) (updates : List α) :
    view.heldSince stored (updates ++ [previous] ++ [last]) last = view.stamp last := by
  have run := view.trailingRun_of_change changed updates
  cases stored with
  | none => rw [heldSince, trailingRun_concat, run, List.nil_append, List.headD_cons]
  | some value =>
      have shorter : ¬ ((1 = updates.length + 1 + 1) ∧ view.level value = view.level last) := by
        rintro ⟨impossible, -⟩
        omega
      simp only [heldSince, trailingRun_concat, run, List.nil_append, List.headD_cons,
        List.length_append, List.length_singleton, if_neg shorter]

/-- A repeated level keeps the clock running. -/
theorem heldSince_of_same (stored : Option α) {previous last : α}
    (same : view.level previous = view.level last) (updates : List α) :
    view.heldSince stored (updates ++ [previous] ++ [last]) last =
      view.heldSince stored (updates ++ [previous]) previous := by
  have run := (view.trailingRun_congr same.symm (updates ++ [previous])).trans
    (view.trailingRun_concat updates previous)
  have before := view.trailingRun_concat updates previous
  cases stored with
  | none => simp only [heldSince, trailingRun_concat, run, headD_concat, before]
  | some value =>
      simp only [heldSince, trailingRun_concat, run, headD_concat, before, List.length_append,
        Nat.add_right_cancel_iff, same]

/-- After a nonempty run the register holds the last update, stamped with the
time since when its level has been held.  The induction peels updates off the
end; the step case only compares the last two of them. -/
theorem foldl_refresh (stored : Option α) (updates : List α) (last : α) :
    (updates ++ [last]).foldl (registerStep view.refresh) stored =
      some (view.restamp last (view.heldSince stored (updates ++ [last]) last)) := by
  induction updates using List.reverseRecOn generalizing last with
  | nil =>
      rw [List.nil_append, List.foldl_cons, List.foldl_nil]
      cases stored with
      | none =>
          simp only [registerStep, heldSince, trailingRun_singleton, List.headD_cons,
            view.restamp_stamp]
      | some value =>
          by_cases same : view.level value = view.level last
          · simp only [registerStep, refresh, heldSince, trailingRun_singleton, same, and_self, if_true]
          · simp only [registerStep, refresh, heldSince, trailingRun_singleton, same, and_false,
              if_false, List.headD_cons, view.restamp_stamp]
  | append_singleton updates previous ih =>
      rw [List.foldl_append, ih previous, List.foldl_cons, List.foldl_nil]
      by_cases same : view.level previous = view.level last
      · rw [view.heldSince_of_same stored same]
        simp only [registerStep, refresh, view.level_restamp, view.stamp_restamp, if_pos same]
      · rw [view.heldSince_of_change stored same]
        simp only [registerStep, refresh, view.level_restamp, if_neg same, view.restamp_stamp]

end Stamped

end Held

end Collections
