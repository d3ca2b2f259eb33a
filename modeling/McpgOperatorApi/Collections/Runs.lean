import McpgOperatorApi.Collections.Upsert
import Mathlib.Data.List.Perm.Basic
import Mathlib.Order.Defs.LinearOrder

namespace Collections

universe u v w

/-!
# Runs of keyed updates against each other

Two runs of updates in place are compared by what each key sees of them.  When
every key sees the same updates in the same order, the runs leave the initial
records in the same state and add the same records, though perhaps in another
order.  The second half compares runs of a stamped register: one that repeats
an earlier run under new stamps, and one whose stamps come from a clock.
-/

section Interleaving

variable {κ : Type u} {α : Type v} [DecidableEq κ] {key : α → κ} {merge : α → α → α}

/-- A record is the first of its key when no earlier one has the key. -/
theorem firstOf_eq_of_getElem? {values : List α} {i : Nat} {value : α}
    (present : values[i]? = some value)
    (fresh : ∀ (j : Nat) (earlier : α), j < i → values[j]? = some earlier →
      key earlier ≠ key value) :
    firstOf key (key value) values = some value := by
  rcases List.getElem?_eq_some_iff.mp present with ⟨inside, found⟩
  apply List.find?_eq_some_iff_getElem.mpr
  refine ⟨decide_eq_true rfl, i, inside, found, ?_⟩
  intro j before
  have other := fresh j values[j] before (List.getElem?_eq_getElem (before.trans inside))
  simpa using other

variable (keyMerge : ∀ old new, key old = key new → key (merge old new) = key new)

include keyMerge in
/-- A run keeps the key of every initial record. -/
theorem key_getElem?_upsertAll {values : List α} (updates : List α) {i : Nat}
    (inside : i < values.length) :
    ((upsertAll key merge values updates)[i]?).map key = values[i]?.map key := by
  have column := congrArg (fun keys => keys[i]?) (keys_upsertAll keyMerge values updates)
  simp only [List.getElem?_map] at column
  rw [column, List.getElem?_append_left (by simpa using inside), List.getElem?_map]

include keyMerge in
/-- The record at the place of the first record of its key is the register
of that key. -/
theorem getElem?_upsertAll_of_first (updates : List α) {values : List α} {i : Nat} {value : α}
    (present : values[i]? = some value)
    (fresh : ∀ (j : Nat) (earlier : α), j < i → values[j]? = some earlier →
      key earlier ≠ key value) :
    (upsertAll key merge values updates)[i]? =
      firstOf key (key value) (upsertAll key merge values updates) := by
  have inside := (List.getElem?_eq_some_iff.mp present).1
  have sameKey := key_getElem?_upsertAll keyMerge updates inside
  rw [present, Option.map_some] at sameKey
  rcases Option.map_eq_some_iff.mp sameKey with ⟨final, found, finalKey⟩
  rw [found, ← finalKey]
  apply Eq.symm
  apply firstOf_eq_of_getElem? found
  intro j earlier before there
  have earlierKey := key_getElem?_upsertAll keyMerge updates (before.trans inside)
  rw [there, Option.map_some] at earlierKey
  rcases Option.map_eq_some_iff.mp earlierKey.symm with ⟨initial, initially, initialKey⟩
  rw [← initialKey, finalKey]
  exact fresh j initial before initially

include keyMerge in
/-- Every run leaves a record alone behind an earlier one of its key, and puts
the register of the key in the place of the first one. -/
theorem shadowed_or_first {values : List α} {i : Nat} {value : α} (present : values[i]? = some value) :
    (∀ updates, (upsertAll key merge values updates)[i]? = some value) ∨
      firstOf key (key value) values = some value ∧
        ∀ updates, (upsertAll key merge values updates)[i]? =
          firstOf key (key value) (upsertAll key merge values updates) := by
  by_cases shadowed : ∃ (j : Nat) (earlier : α), j < i ∧ values[j]? = some earlier ∧
      key earlier = key value
  · left
    intro updates
    exact getElem?_upsertAll_of_untouched keyMerge updates present (Or.inr shadowed)
  · right
    have fresh : ∀ (j : Nat) (earlier : α), j < i → values[j]? = some earlier →
        key earlier ≠ key value :=
      fun j earlier before there equal => shadowed ⟨j, earlier, before, there, equal⟩
    refine ⟨firstOf_eq_of_getElem? present fresh, ?_⟩
    intro updates
    exact getElem?_upsertAll_of_first keyMerge updates present fresh

include keyMerge in
/-- The records behind the initial ones are the registers of the added keys. -/
theorem drop_upsertAll (values updates : List α) :
    (upsertAll key merge values updates).drop values.length =
      (addedKeys key values updates).filterMap
        (fun k => firstOf key k (upsertAll key merge values updates)) := by
  have column := keys_upsertAll keyMerge values updates
  generalize upsertAll key merge values updates = final at column ⊢
  rcases List.map_eq_append_iff.mp column with ⟨front, back, rfl, frontKeys, backKeys⟩
  have length : front.length = values.length := by
    simpa using congrArg List.length frontKeys
  rw [← length, List.drop_left, ← backKeys, List.filterMap_map]
  have unlisted : ∀ k ∈ back.map key, k ∉ front.map key := by
    intro k listed
    rw [backKeys, mem_addedKeys_iff] at listed
    exact frontKeys ▸ listed.2
  have distinct : (back.map key).Nodup := backKeys ▸ nodup_addedKeys values updates
  have each : ∀ x ∈ back, firstOf key (key x) (front ++ back) = some x := by
    intro x listed
    have skipped : front.find? (fun value => key value = key x) = none := by
      apply List.find?_eq_none.mpr
      intro value member
      have other := unlisted (key x) (List.mem_map_of_mem listed)
      have unequal : key value ≠ key x :=
        fun equal => other (equal ▸ List.mem_map_of_mem member)
      simpa using unequal
    rw [firstOf, List.find?_append, skipped, Option.none_or]
    rcases List.mem_iff_getElem?.mp listed with ⟨i, here⟩
    apply firstOf_eq_of_getElem? here
    intro j earlier before there same
    have columnAt : ∀ {n : Nat} {y : α}, back[n]? = some y → (back.map key)[n]? = some (key y) := by
      intro n y found
      rw [List.getElem?_map, found, Option.map_some]
    have inside : j < (back.map key).length := by
      simpa using (List.getElem?_eq_some_iff.mp there).1
    have equal : (back.map key)[j]? = (back.map key)[i]? := by
      rw [columnAt there, columnAt here, same]
    exact absurd ((List.getElem?_inj inside distinct).mp equal) (Nat.ne_of_lt before)
  calc back = back.filterMap some := List.filterMap_some.symm
    _ = _ := List.filterMap_congr (fun x listed => (each x listed).symm)

variable {first second : List α}
  (same : ∀ k, updatesOf key k first = updatesOf key k second)

include same in
/-- Runs with the same updates of each key update the same keys. -/
theorem mem_map_key_iff_of_updatesOf (k : κ) : k ∈ first.map key ↔ k ∈ second.map key := by
  have listed : ∀ updates : List α, k ∈ updates.map key ↔ updatesOf key k updates ≠ [] := by
    intro updates
    rw [updatesOf, ne_eq, List.filter_eq_nil_iff]
    simp [List.mem_map]
  rw [listed, listed, same]

include keyMerge same in
/-- Runs with the same updates of each key leave the same record for it. -/
theorem firstOf_upsertAll_congr (k : κ) (values : List α) :
    firstOf key k (upsertAll key merge values first) =
      firstOf key k (upsertAll key merge values second) := by
  rw [firstOf_upsertAll keyMerge, firstOf_upsertAll keyMerge, same]

include keyMerge same in
/-- Runs with the same updates of each key leave the initial records alike. -/
theorem take_upsertAll_congr (values : List α) :
    (upsertAll key merge values first).take values.length =
      (upsertAll key merge values second).take values.length := by
  apply List.ext_getElem?
  intro i
  rw [List.getElem?_take, List.getElem?_take]
  by_cases inside : i < values.length
  · rw [if_pos inside, if_pos inside]
    rcases shadowed_or_first keyMerge (List.getElem?_eq_getElem inside) with kept | ⟨-, register⟩
    · rw [kept, kept]
    · rw [register, register]
      exact firstOf_upsertAll_congr keyMerge same _ values
  · rw [if_neg inside, if_neg inside]

include same in
/-- Runs with the same updates of each key add the same keys. -/
theorem perm_addedKeys (values : List α) :
    (addedKeys key values first).Perm (addedKeys key values second) := by
  apply (List.perm_ext_iff_of_nodup (nodup_addedKeys values first)
    (nodup_addedKeys values second)).mpr
  intro k
  rw [mem_addedKeys_iff, mem_addedKeys_iff, mem_map_key_iff_of_updatesOf same]

include keyMerge same in
/-- Runs with the same updates of each key add the same records. -/
theorem perm_drop_upsertAll (values : List α) :
    ((upsertAll key merge values first).drop values.length).Perm
      ((upsertAll key merge values second).drop values.length) := by
  rw [drop_upsertAll keyMerge, drop_upsertAll keyMerge]
  have registers : (fun k => firstOf key k (upsertAll key merge values first)) =
      fun k => firstOf key k (upsertAll key merge values second) :=
    funext fun k => firstOf_upsertAll_congr keyMerge same k values
  rw [registers]
  exact (perm_addedKeys same values).filterMap _

include keyMerge same in
/-- Runs with the same updates of each key differ at most in the order of the
records they add. -/
theorem perm_upsertAll (values : List α) :
    (upsertAll key merge values first).Perm (upsertAll key merge values second) := by
  rw [← List.take_append_drop values.length (upsertAll key merge values first),
    ← List.take_append_drop values.length (upsertAll key merge values second),
    take_upsertAll_congr keyMerge same]
  exact (perm_drop_upsertAll keyMerge same values).append_left _

include keyMerge same in
/-- Runs with the same updates of each key agree when they add their keys in
the same order. -/
theorem upsertAll_congr {values : List α}
    (order : addedKeys key values first = addedKeys key values second) :
    upsertAll key merge values first = upsertAll key merge values second := by
  have registers : (fun k => firstOf key k (upsertAll key merge values first)) =
      fun k => firstOf key k (upsertAll key merge values second) :=
    funext fun k => firstOf_upsertAll_congr keyMerge same k values
  rw [← List.take_append_drop values.length (upsertAll key merge values first),
    ← List.take_append_drop values.length (upsertAll key merge values second),
    take_upsertAll_congr keyMerge same, drop_upsertAll keyMerge, drop_upsertAll keyMerge, order,
    registers]

end Interleaving

section Shadowed

variable {κ : Type u} {α : Type v} [DecidableEq κ] {key : α → κ} {merge : α → α → α}

/-- The records of a key that are behind its first one. -/
def shadowed (key : α → κ) (k : κ) (values : List α) : List α :=
  (updatesOf key k values).tail

theorem updatesOf_eq_append (k : κ) (values : List α) :
    updatesOf key k values = (firstOf key k values).toList ++ shadowed key k values := by
  rw [firstOf, ← List.head?_filter, shadowed, updatesOf]
  cases values.filter (fun value => key value = k) with
  | nil => rfl
  | cons first rest => rfl

variable (keyMerge : ∀ old new, key old = key new → key (merge old new) = key new)

include keyMerge in
/-- An update reaches the records of its key only. -/
theorem updatesOf_upsert_of_ne {k : κ} {x : α} (other : key x ≠ k) (values : List α) :
    updatesOf key k (upsert key merge x values) = updatesOf key k values := by
  simp only [updatesOf]
  induction values with
  | nil => simp [upsert, other]
  | cons value rest ih =>
      rw [upsert]
      by_cases hit : key value = key x
      · rw [if_pos hit]
        simp [hit, keyMerge value x hit, other]
      · rw [if_neg hit, List.filter_cons, List.filter_cons, ih]

include keyMerge in
/-- Of these, an update reaches the first one only. -/
theorem shadowed_upsert (k : κ) (x : α) (values : List α) :
    shadowed key k (upsert key merge x values) = shadowed key k values := by
  by_cases same : key x = k
  · induction values with
    | nil => simp [shadowed, updatesOf, upsert, same]
    | cons value rest ih =>
        simp only [shadowed, updatesOf] at ih ⊢
        rw [upsert]
        by_cases hit : key value = key x
        · rw [if_pos hit]
          simp [hit, keyMerge value x hit, same]
        · have apart : key value ≠ k := fun here => hit (here.trans same.symm)
          rw [if_neg hit]
          simpa [apart] using ih
  · rw [shadowed, shadowed, updatesOf_upsert_of_ne keyMerge same]

include keyMerge in
/-- No run adds to the shadowed records or changes them. -/
theorem shadowed_upsertAll (k : κ) (values updates : List α) :
    shadowed key k (upsertAll key merge values updates) = shadowed key k values := by
  induction updates using List.reverseRecOn with
  | nil => rfl
  | append_singleton updates x ih =>
      rw [upsertAll, List.foldl_append]
      exact (shadowed_upsert keyMerge k x _).trans ih

end Shadowed

section FixedPoint

variable {κ : Type u} {α : Type v} [DecidableEq κ] {key : α → κ} {merge : α → α → α}
  (keyMerge : ∀ old new, key old = key new → key (merge old new) = key new)

include keyMerge in
/-- A run changes nothing when it changes no register. -/
theorem upsertAll_eq_self_iff (values updates : List α) :
    upsertAll key merge values updates = values ↔
      ∀ k, firstOf key k (upsertAll key merge values updates) = firstOf key k values := by
  constructor
  · intro steady k
    rw [steady]
  · intro steady
    have listed : ∀ k, k ∈ (upsertAll key merge values updates).map key → k ∈ values.map key := by
      intro k member
      rcases List.mem_map.mp member with ⟨final, there, finalKey⟩
      have present : (firstOf key k values).isSome := by
        rw [← steady k, firstOf, List.find?_isSome]
        exact ⟨final, there, decide_eq_true finalKey⟩
      rcases List.find?_isSome.mp present with ⟨value, initially, valueKey⟩
      exact List.mem_map.mpr ⟨value, initially, of_decide_eq_true valueKey⟩
    have nothing : addedKeys key values updates = [] := by
      apply List.eq_nil_iff_forall_not_mem.mpr
      intro k added
      have fresh := ((mem_addedKeys_iff k values updates).mp added).2
      apply fresh
      apply listed
      rw [keys_upsertAll keyMerge]
      exact List.mem_append_right _ added
    have length : (upsertAll key merge values updates).length = values.length := by
      have columns := congrArg List.length (keys_upsertAll keyMerge values updates)
      rw [nothing, List.append_nil, List.length_map, List.length_map] at columns
      exact columns
    apply List.ext_getElem?
    intro i
    by_cases inside : i < values.length
    · have present := List.getElem?_eq_getElem inside
      rcases shadowed_or_first keyMerge present with kept | ⟨initial, register⟩
      · rw [kept, present]
      · rw [register, steady, initial, present]
    · have outside := Nat.le_of_not_lt inside
      rw [List.getElem?_eq_none outside, List.getElem?_eq_none (length.symm ▸ outside)]

end FixedPoint

section Restamped

variable {α : Type u} {σ : Type v} {τ : Type w}

namespace Stamped

variable {view : Stamped α σ τ}

/-- The second run repeats the first one under other stamps. -/
def Restamped (view : Stamped α σ τ) (first second : List α) : Prop :=
  List.Forall₂ (fun x y => ∃ t, y = view.restamp x t) first second

theorem restamped_map (view : Stamped α σ τ) (updates : List α) (t : τ) :
    view.Restamped updates (updates.map (fun x => view.restamp x t)) := by
  apply List.forall₂_map_right_iff.mpr
  apply List.forall₂_same.mpr
  intro x _
  exact ⟨t, rfl⟩

/-- A repetition ends with the last update under another stamp. -/
theorem Restamped.exists_concat {earlier second : List α} {last : α}
    (repeated : view.Restamped (earlier ++ [last]) second) :
    ∃ earlier' t, second = earlier' ++ [view.restamp last t] := by
  rcases List.eq_nil_or_concat second with rfl | ⟨earlier', last', rfl⟩
  · have length := List.Forall₂.length_eq repeated
    simp at length
  · rw [List.concat_eq_append] at repeated ⊢
    have other := List.forall₂_reverse_iff.mpr repeated
    rw [List.reverse_append, List.reverse_append] at other
    rcases (List.forall₂_cons.mp other).1 with ⟨t, rfl⟩
    exact ⟨earlier', t, rfl⟩

/-- A repetition has the levels of the run it repeats. -/
theorem Restamped.level_mem {first second : List α} (repeated : view.Restamped first second) :
    ∀ y ∈ second, ∃ x ∈ first, view.level y = view.level x := by
  intro y listed
  induction repeated with
  | nil => cases listed
  | cons head tail ih =>
      rename_i x _ _ _
      rcases List.mem_cons.mp listed with rfl | later
      · rcases head with ⟨t, rfl⟩
        exact ⟨x, List.mem_cons_self, view.level_restamp x t⟩
      · rcases ih later with ⟨x', there, equal⟩
        exact ⟨x', List.mem_cons_of_mem _ there, equal⟩

end Stamped

end Restamped

section Repetition

variable {α : Type u} {σ : Type v} {τ : Type w} [DecidableEq σ]

namespace Stamped

variable (view : Stamped α σ τ)

/-- While the level is held, the stored stamp stays. -/
theorem heldSince_of_held {value last : α} {updates : List α} (ends : last ∈ updates)
    (held : ∀ x ∈ updates, view.level x = view.level value) :
    view.heldSince (some value) updates last = view.stamp value := by
  have whole : view.trailingRun updates last = updates := by
    apply List.rtakeWhile_eq_self_iff.mpr
    intro x listed
    exact decide_eq_true ((held x listed).trans (held last ends).symm)
  rw [heldSince, whole]
  exact if_pos ⟨rfl, (held last ends).symm⟩

/-- Once the level has changed, the stamp is the one of an update with the
last level. -/
theorem heldSince_of_broken {value last : α} {earlier : List α}
    (broken : ∃ x ∈ earlier ++ [last], view.level x ≠ view.level value) :
    ∃ x ∈ earlier ++ [last], view.level x = view.level last ∧
      view.heldSince (some value) (earlier ++ [last]) last = view.stamp x := by
  have partly : ¬ ((view.trailingRun (earlier ++ [last]) last).length = (earlier ++ [last]).length ∧
      view.level value = view.level last) := by
    intro ⟨length, initial⟩
    have whole := (List.rtakeWhile_suffix _ (earlier ++ [last])).eq_of_length length
    rcases broken with ⟨x, listed, changed⟩
    have equal := of_decide_eq_true (List.rtakeWhile_eq_self_iff.mp whole x listed)
    exact changed (equal.trans initial.symm)
  rw [heldSince, if_neg partly]
  cases run : view.trailingRun (earlier ++ [last]) last with
  | nil => exact absurd run (by rw [trailingRun_concat]; simp)
  | cons x rest =>
      have member : x ∈ view.trailingRun (earlier ++ [last]) last := run ▸ List.mem_cons_self
      rw [trailingRun] at member
      have level := List.mem_rtakeWhile_imp member
      exact ⟨x, (List.rtakeWhile_suffix _ _).mem member, of_decide_eq_true level, rfl⟩

variable {view} (overwrite : ∀ x s t, view.restamp (view.restamp x s) t = view.restamp x t)

include overwrite in
/-- Repeating a run whose updates all have one level leaves the register
alone, whatever the new stamps are. -/
theorem foldl_refresh_of_uniform (stored : Option α) {first second : List α}
    (repeated : view.Restamped first second)
    (uniform : ∀ x ∈ first, ∀ y ∈ first, view.level x = view.level y) :
    second.foldl (registerStep view.refresh) (first.foldl (registerStep view.refresh) stored) =
      first.foldl (registerStep view.refresh) stored := by
  rcases List.eq_nil_or_concat first with rfl | ⟨earlier, last, rfl⟩
  · rw [List.forall₂_nil_left_iff.mp repeated]
    rfl
  · rw [List.concat_eq_append] at repeated uniform ⊢
    rcases repeated.exists_concat with ⟨earlier', t, rfl⟩
    rw [foldl_refresh, foldl_refresh, overwrite, heldSince_of_held, view.stamp_restamp]
    · exact List.mem_append_right _ List.mem_cons_self
    · intro y listed
      rcases repeated.level_mem y listed with ⟨x, there, equal⟩
      rw [equal, view.level_restamp]
      exact uniform x there last (List.mem_append_right _ List.mem_cons_self)

include overwrite in
/-- A register that no repetition moves has seen updates of one level. -/
theorem uniform_of_foldl_refresh [Nontrivial τ] {stored : Option α} {updates : List α}
    (steady : ∀ t, (updates.map (fun x => view.restamp x t)).foldl (registerStep view.refresh)
        (updates.foldl (registerStep view.refresh) stored) =
      updates.foldl (registerStep view.refresh) stored) :
    ∀ x ∈ updates, ∀ y ∈ updates, view.level x = view.level y := by
  rcases List.eq_nil_or_concat updates with rfl | ⟨earlier, last, rfl⟩
  · intro x listed
    cases listed
  · rw [List.concat_eq_append] at steady ⊢
    have constant : ∀ x ∈ earlier ++ [last], view.level x = view.level last := by
      by_contra mixed
      push Not at mixed
      rcases exists_ne (view.heldSince stored (earlier ++ [last]) last) with ⟨t, different⟩
      have moved := steady t
      rw [List.map_append, List.map_singleton, foldl_refresh, foldl_refresh, overwrite] at moved
      have stamps := congrArg (Option.map view.stamp) moved
      simp only [Option.map_some, view.stamp_restamp, Option.some.injEq] at stamps
      have broken : ∃ x ∈ earlier.map (fun x => view.restamp x t) ++ [view.restamp last t],
          view.level x ≠ view.level (view.restamp last (view.heldSince stored (earlier ++ [last]) last)) := by
        rcases mixed with ⟨x, listed, changed⟩
        refine ⟨view.restamp x t, ?_, by rwa [view.level_restamp, view.level_restamp]⟩
        have mapped := List.mem_map_of_mem (f := fun x => view.restamp x t) listed
        rwa [List.map_append, List.map_singleton] at mapped
      rcases view.heldSince_of_broken broken with ⟨x, listed, -, start⟩
      rw [start] at stamps
      apply different
      rw [← stamps]
      have stamped : ∀ y ∈ (earlier ++ [last]).map (fun x => view.restamp x t), view.stamp y = t := by
        intro y there
        rcases List.mem_map.mp there with ⟨z, -, rfl⟩
        exact view.stamp_restamp z t
      rw [List.map_append, List.map_singleton] at stamped
      exact (stamped x listed).symm
    intro x here y there
    exact (constant x here).trans (constant y there).symm

end Stamped

variable {κ : Type u} [DecidableEq κ] {key : α → κ} {view : Stamped α σ τ}
  (keyRefresh : ∀ old new, key old = key new → key (view.refresh old new) = key new)
  (keyRestamp : ∀ x t, key (view.restamp x t) = key x)
  (overwrite : ∀ x s t, view.restamp (view.restamp x s) t = view.restamp x t)

omit [DecidableEq σ] in
include keyRestamp in
/-- Repetitions repeat the updates of each key. -/
theorem restamped_updatesOf {first second : List α} (repeated : view.Restamped first second) (k : κ) :
    view.Restamped (updatesOf key k first) (updatesOf key k second) := by
  apply List.rel_filter _ repeated
  intro x y related
  rcases related with ⟨t, rfl⟩
  simp only [keyRestamp]

include keyRefresh keyRestamp overwrite in
/-- A run is stable under every repetition exactly when it gives each key one
level. -/
theorem upsertAll_repeated_iff [Nontrivial τ] (values first : List α) :
    (∀ second, view.Restamped first second →
      upsertAll key view.refresh (upsertAll key view.refresh values first) second =
        upsertAll key view.refresh values first) ↔
    ∀ x ∈ first, ∀ y ∈ first, key x = key y → view.level x = view.level y := by
  constructor
  · intro steady x here y there equal
    have register : ∀ t, ((updatesOf key (key y) first).map (fun x => view.restamp x t)).foldl
        (registerStep view.refresh)
          ((updatesOf key (key y) first).foldl (registerStep view.refresh)
            (firstOf key (key y) values)) =
        (updatesOf key (key y) first).foldl (registerStep view.refresh)
          (firstOf key (key y) values) := by
      intro t
      have projected : updatesOf key (key y) (first.map (fun x => view.restamp x t)) =
          (updatesOf key (key y) first).map (fun x => view.restamp x t) := by
        rw [updatesOf, updatesOf, List.filter_map]
        simp only [Function.comp_def, keyRestamp]
      rw [← projected, ← firstOf_upsertAll keyRefresh, ← firstOf_upsertAll keyRefresh,
        steady _ (view.restamped_map first t)]
    exact Stamped.uniform_of_foldl_refresh overwrite register x
      (List.mem_filter.mpr ⟨here, decide_eq_true equal⟩) y
      (List.mem_filter.mpr ⟨there, decide_eq_true rfl⟩)
  · intro uniform second repeated
    apply (upsertAll_eq_self_iff keyRefresh _ _).mpr
    intro k
    rw [firstOf_upsertAll keyRefresh, firstOf_upsertAll keyRefresh]
    apply Stamped.foldl_refresh_of_uniform overwrite _ (restamped_updatesOf keyRestamp repeated k)
    intro x here y there
    rcases List.mem_filter.mp here with ⟨hereListed, hereKey⟩
    rcases List.mem_filter.mp there with ⟨thereListed, thereKey⟩
    exact uniform x hereListed y thereListed
      ((of_decide_eq_true hereKey).trans (of_decide_eq_true thereKey).symm)

end Repetition

section Clock

variable {α : Type u} {σ : Type v} {τ : Type w} [DecidableEq σ]

namespace Stamped

variable {view : Stamped α σ τ} {value last : α} {earlier : List α}

/-- Updates stamped no earlier than the stored record never move its stamp back. -/
theorem stamp_le_heldSince [Preorder τ]
    (after : ∀ x ∈ earlier ++ [last], view.stamp value ≤ view.stamp x) :
    view.stamp value ≤ view.heldSince (some value) (earlier ++ [last]) last := by
  by_cases held : ∀ x ∈ earlier ++ [last], view.level x = view.level value
  · rw [view.heldSince_of_held (List.mem_append_right _ List.mem_cons_self) held]
  · push Not at held
    rcases view.heldSince_of_broken held with ⟨x, listed, -, start⟩
    rw [start]
    exact after x listed

/-- Under updates stamped later than the stored record, the stamp stays
exactly while the level is held. -/
theorem heldSince_eq_stamp_iff [Preorder τ]
    (after : ∀ x ∈ earlier ++ [last], view.stamp value < view.stamp x) :
    view.heldSince (some value) (earlier ++ [last]) last = view.stamp value ↔
      ∀ x ∈ earlier ++ [last], view.level x = view.level value := by
  constructor
  · intro unmoved
    by_contra broken
    push Not at broken
    rcases view.heldSince_of_broken broken with ⟨x, listed, -, start⟩
    have later := after x listed
    rw [← start, unmoved] at later
    exact lt_irrefl _ later
  · intro held
    exact view.heldSince_of_held (List.mem_append_right _ List.mem_cons_self) held

/-- A changed level is stamped by an update that brought it. -/
theorem exists_stamp_of_change (changed : view.level value ≠ view.level last) :
    ∃ x ∈ earlier ++ [last], view.level x = view.level last ∧
      view.heldSince (some value) (earlier ++ [last]) last = view.stamp x :=
  view.heldSince_of_broken
    ⟨last, List.mem_append_right _ List.mem_cons_self, fun same => changed same.symm⟩

/-- Every update is stamped after all stored records and all earlier updates. -/
def Clocked (view : Stamped α σ τ) (after : τ → τ → Prop) (values updates : List α) : Prop :=
  (∀ x ∈ values, ∀ y ∈ updates, after (view.stamp x) (view.stamp y)) ∧
    updates.Pairwise (fun x y => after (view.stamp x) (view.stamp y))

end Stamped

variable {κ : Type u} [DecidableEq κ] {key : α → κ} {view : Stamped α σ τ}

/-- Every stamp after an update was there before or came with the update. -/
theorem exists_stamp_of_mem_upsert {x y : α} {values : List α}
    (member : y ∈ upsert key view.refresh x values) :
    ∃ z ∈ values ++ [x], view.stamp y = view.stamp z := by
  induction values with
  | nil => exact ⟨y, member, rfl⟩
  | cons first rest ih =>
      rw [upsert] at member
      split at member
      · rcases List.mem_cons.mp member with rfl | later
        · rw [Stamped.refresh]
          split
          · exact ⟨first, List.mem_cons_self, view.stamp_restamp _ _⟩
          · exact ⟨x, List.mem_append_right _ List.mem_cons_self, rfl⟩
        · exact ⟨y, List.mem_append_left _ (List.mem_cons_of_mem _ later), rfl⟩
      · rcases List.mem_cons.mp member with rfl | later
        · exact ⟨y, List.mem_cons_self, rfl⟩
        · rcases ih later with ⟨z, listed, equal⟩
          exact ⟨z, List.mem_cons_of_mem _ listed, equal⟩

/-- Every stamp after a run was there before or came with an update. -/
theorem exists_stamp_of_mem_upsertAll {values updates : List α} {y : α}
    (member : y ∈ upsertAll key view.refresh values updates) :
    ∃ x ∈ values ++ updates, view.stamp y = view.stamp x := by
  induction updates using List.reverseRecOn generalizing y with
  | nil => exact ⟨y, List.mem_append_left _ member, rfl⟩
  | append_singleton updates x ih =>
      rw [upsertAll, List.foldl_append] at member
      rcases exists_stamp_of_mem_upsert member with ⟨z, listed, equal⟩
      rcases List.mem_append.mp listed with stored | incoming
      · rcases ih stored with ⟨origin, there, same⟩
        refine ⟨origin, ?_, equal.trans same⟩
        rcases List.mem_append.mp there with initial | earlier
        · exact List.mem_append_left _ initial
        · exact List.mem_append_right _ (List.mem_append_left _ earlier)
      · refine ⟨z, ?_, equal⟩
        exact List.mem_append_right _ (List.mem_append_right _ incoming)

/-- A clock stays ahead of the records that a run leaves. -/
theorem Stamped.Clocked.upsertAll {after : τ → τ → Prop} {values first second : List α}
    (clock : view.Clocked after values (first ++ second)) :
    view.Clocked after (upsertAll key view.refresh values first) second := by
  rcases clock with ⟨stored, ordered⟩
  rcases List.pairwise_append.mp ordered with ⟨-, later, between⟩
  refine ⟨?_, later⟩
  intro x listed y update
  rcases exists_stamp_of_mem_upsertAll listed with ⟨z, origin, equal⟩
  rw [equal]
  rcases List.mem_append.mp origin with initial | earlier
  · exact stored z initial y (List.mem_append_right _ update)
  · exact between z earlier y update

/-- A run either leaves a record alone, or puts the last update of its key in
its place. -/
theorem getElem?_upsertAll_cases
    (keyRefresh : ∀ old new, key old = key new → key (view.refresh old new) = key new)
    {values updates : List α} {i : Nat} {x y : α} (before : values[i]? = some x)
    (after : (upsertAll key view.refresh values updates)[i]? = some y) :
    y = x ∨ ∃ earlier last, updatesOf key (key x) updates = earlier ++ [last] ∧
      y = view.restamp last (view.heldSince (some x) (earlier ++ [last]) last) := by
  rcases shadowed_or_first keyRefresh before with kept | ⟨initial, register⟩
  · rw [kept] at after
    exact Or.inl (Option.some.inj after).symm
  · rw [register, firstOf_upsertAll keyRefresh, initial] at after
    rcases List.eq_nil_or_concat (updatesOf key (key x) updates) with none | ⟨earlier, last, split⟩
    · rw [none] at after
      exact Or.inl (Option.some.inj after).symm
    · rw [List.concat_eq_append] at split
      rw [split, Stamped.foldl_refresh] at after
      exact Or.inr ⟨earlier, last, split, (Option.some.inj after).symm⟩

end Clock

end Collections
