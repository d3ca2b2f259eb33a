import McpgOperatorApi.Serde.Derive

namespace Serde

open Collections

/-!
# Two ways of leaving a field out

A field can be left out of a JSON object, where its stand-in value takes
over, or out of a record expression, where the default of the whole record
takes over.  The two agree on a set of fields exactly when each field of the
set is *steady*: its stand-in value is the one it has in the default record.
-/

/-- A default that may be anything tells optional values apart. -/
theorem eq_of_getD {α : Type} [Nontrivial α] {o p : Option α}
    (same : ∀ fallback, o.getD fallback = p.getD fallback) : o = p := by
  cases o with
  | none =>
      cases p with
      | none => rfl
      | some y =>
          rcases exists_ne y with ⟨other, different⟩
          exact absurd (same other) different
  | some x =>
      cases p with
      | none =>
          rcases exists_ne x with ⟨other, different⟩
          exact absurd (same other).symm different
      | some y => exact congrArg some (same x)

namespace Fields

/-- The keys that may be missing. -/
def defaultedKeys : {ρ : Type} → Fields ρ → List String
  | _, nil => []
  | _, @cons _ _ _ field rest =>
      if field.omitted.isSome then field.key :: rest.defaultedKeys else rest.defaultedKeys

/-- Overwrite the fields with a dropped key by those of another row. -/
def reset (dropped : List String) : {ρ : Type} → Fields ρ → ρ → ρ → ρ
  | _, nil, _, _ => ()
  | _, @cons _ _ _ field rest, (y, ys), (x, xs) =>
      (if field.key ∈ dropped then y else x, rest.reset dropped ys xs)

/-- Overwrite every field that may be missing by its stand-in value. -/
def standIns : {ρ : Type} → Fields ρ → ρ → ρ
  | _, nil, _ => ()
  | _, @cons _ _ _ field rest, (x, xs) => (field.omitted.getD x, rest.standIns xs)

/-- The field of a key stands in with the value that it has in a row. -/
def SteadyAt : {ρ : Type} → Fields ρ → ρ → String → Prop
  | _, nil, _, _ => True
  | _, @cons _ _ _ field rest, (x, xs), key =>
      (field.key = key → field.omitted.getD x = x) ∧ rest.SteadyAt xs key

theorem mem_keys_of_mem_defaultedKeys {ρ : Type} {fields : Fields ρ} {key : String}
    (listed : key ∈ fields.defaultedKeys) : key ∈ fields.keys := by
  induction fields with
  | nil => exact listed
  | cons field rest ih =>
      rw [defaultedKeys] at listed
      split at listed
      · rcases List.mem_cons.mp listed with here | later
        · exact here ▸ List.mem_cons_self
        · exact List.mem_cons_of_mem _ (ih later)
      · exact List.mem_cons_of_mem _ (ih listed)

/-- A dropped key of the first field has a stand-in value, when all dropped
keys of the record do and no two fields share a key. -/
theorem exists_omitted_of_dropped {α β : Type} [Wire α] {field : Field α} {rest : Fields β}
    {dropped : List String} (distinct : (cons field rest).keys.Nodup)
    (listed : ∀ key ∈ dropped, key ∈ (cons field rest).keys →
      key ∈ (cons field rest).defaultedKeys)
    (gone : field.key ∈ dropped) : ∃ y, field.omitted = some y := by
  have inside := listed field.key gone List.mem_cons_self
  cases omitted : field.omitted with
  | some y => exact ⟨y, rfl⟩
  | none =>
      rw [defaultedKeys, omitted, Option.isSome_none, if_neg Bool.false_ne_true] at inside
      exact absurd (mem_keys_of_mem_defaultedKeys inside) (List.nodup_cons.mp distinct).1

/-- The hypothesis on the dropped keys passes to the remaining fields. -/
theorem dropped_rest {α β : Type} [Wire α] {field : Field α} {rest : Fields β}
    {dropped : List String} (distinct : (cons field rest).keys.Nodup)
    (listed : ∀ key ∈ dropped, key ∈ (cons field rest).keys →
      key ∈ (cons field rest).defaultedKeys) :
    ∀ key ∈ dropped, key ∈ rest.keys → key ∈ rest.defaultedKeys := by
  intro key gone later
  have inside := listed key gone (List.mem_cons_of_mem _ later)
  have other : key ≠ field.key := fun same => (List.nodup_cons.mp distinct).1 (same ▸ later)
  rw [defaultedKeys] at inside
  split at inside
  · exact (List.mem_cons.mp inside).resolve_left other
  · exact inside

/-- Dropping keys on the wire puts the stand-in values in their place. -/
theorem visitMap_without {ρ : Type} (fields : Fields ρ) (distinct : fields.keys.Nodup)
    {dropped : List String} (listed : ∀ key ∈ dropped, key ∈ fields.keys → key ∈ fields.defaultedKeys)
    {lookup : String → Option Value} {row : ρ} (read : fields.visitMap lookup = some row) :
    fields.visitMap (fun key => if key ∈ dropped then none else lookup key) =
      some (fields.reset dropped (fields.standIns row) row) := by
  induction fields with
  | nil => rfl
  | cons field rest ih =>
      rcases row with ⟨x, xs⟩
      rw [visitMap, Option.bind_eq_some_iff] at read
      rcases read with ⟨x', readHere, readRest⟩
      rcases Option.map_eq_some_iff.mp readRest with ⟨xs', readLater, same⟩
      cases same
      have later := ih (List.nodup_cons.mp distinct).2 (dropped_rest distinct listed) readLater
      rw [visitMap, later, reset, standIns]
      by_cases gone : field.key ∈ dropped
      · rcases exists_omitted_of_dropped distinct listed gone with ⟨y, omitted⟩
        simp only [if_pos gone, omitted, Option.bind_some, Option.map_some, Option.getD_some]
      · simp only [if_neg gone, readHere, Option.bind_some, Option.map_some]

/-- The stand-in values are those of another row exactly at the dropped keys
where the other row is steady. -/
theorem reset_standIns_eq_iff {ρ : Type} (fields : Fields ρ) (distinct : fields.keys.Nodup)
    {dropped : List String} (listed : ∀ key ∈ dropped, key ∈ fields.keys → key ∈ fields.defaultedKeys)
    (defaults row : ρ) :
    fields.reset dropped (fields.standIns row) row = fields.reset dropped defaults row ↔
      ∀ key ∈ dropped, fields.SteadyAt defaults key := by
  induction fields with
  | nil => exact ⟨fun _ _ _ => trivial, fun _ => rfl⟩
  | cons field rest ih =>
      rcases row with ⟨x, xs⟩
      rcases defaults with ⟨d, ds⟩
      have later := ih (List.nodup_cons.mp distinct).2 (dropped_rest distinct listed) ds xs
      have here : (if field.key ∈ dropped then field.omitted.getD x else x) =
            (if field.key ∈ dropped then d else x) ↔
          (field.key ∈ dropped → field.omitted.getD d = d) := by
        by_cases gone : field.key ∈ dropped
        · rcases exists_omitted_of_dropped distinct listed gone with ⟨y, omitted⟩
          simp only [gone, omitted, if_true, Option.getD_some, true_imp_iff]
        · simp only [gone, if_false, false_imp_iff]
      simp only [reset, standIns, SteadyAt, Prod.mk.injEq, later, here]
      constructor
      · rintro ⟨steady, restSteady⟩ key gone
        exact ⟨fun same => steady (same ▸ gone), restSteady key gone⟩
      · intro steady
        exact ⟨fun gone => (steady field.key gone).1 rfl, fun key gone => (steady key gone).2⟩

/-- A row equal to its stand-ins is steady everywhere. -/
theorem steadyAt_of_standIns {ρ : Type} (fields : Fields ρ) {row : ρ}
    (same : fields.standIns row = row) (key : String) : fields.SteadyAt row key := by
  induction fields with
  | nil => trivial
  | cons field rest ih =>
      rcases row with ⟨x, xs⟩
      rcases Prod.mk.inj same with ⟨here, later⟩
      exact ⟨fun _ => here, ih later⟩

/-- When the stand-ins only change the fields with a listed key, all others
are steady. -/
theorem steadyAt_of_reset {ρ : Type} (fields : Fields ρ) {drifts : List String} {row : ρ}
    (same : fields.standIns row = fields.reset drifts (fields.standIns row) row) {key : String}
    (unlisted : key ∉ drifts) : fields.SteadyAt row key := by
  induction fields with
  | nil => trivial
  | cons field rest ih =>
      rcases row with ⟨x, xs⟩
      rcases Prod.mk.inj same with ⟨here, later⟩
      refine ⟨fun sameKey => ?_, ih later⟩
      rwa [if_neg (sameKey ▸ unlisted)] at here

end Fields

variable {T : Type} [Derive T]

variable (T) in
/-- The keys of a record that may be missing. -/
def defaultedKeys : List String :=
  (Derive.fields (T := T)).defaultedKeys

variable [Inhabited T]

/-- The record with the dropped fields taken from the default record. -/
def withDefaults (dropped : List String) (x : T) : T :=
  Derive.ofRow ((Derive.fields (T := T)).reset dropped (Derive.toRow default) (Derive.toRow x))

variable (T) in
/-- The field of a key stands in with the value of the default record. -/
def SteadyAt (key : String) : Prop :=
  (Derive.fields (T := T)).SteadyAt (Derive.toRow default) key

/-- Dropping keys on the wire and dropping them in the record expression give
the same record exactly when all of them are steady. -/
theorem deserialize_without_eq_iff [DistinctKeys T] {entries : List (String × Value)} {x : T}
    (decoded : deserialize (.object entries) = some x) {dropped : List String}
    (listed : dropped ⊆ defaultedKeys T) :
    deserialize (.object (Value.without dropped entries)) = some (withDefaults dropped x) ↔
      ∀ key ∈ dropped, SteadyAt T key := by
  rw [deserialize_object] at decoded
  rcases Option.map_eq_some_iff.mp decoded with ⟨row, read, rfl⟩
  have wire : (Derive.fields (T := T)).visitMap (Value.object (Value.without dropped entries)).get? =
      some ((Derive.fields (T := T)).reset dropped ((Derive.fields (T := T)).standIns row) row) := by
    rw [← Fields.visitMap_without _ DistinctKeys.keys_nodup (fun key gone _ => listed gone) read]
    exact congrArg _ (funext (Value.lookup_without dropped entries))
  rw [deserialize_object, wire, Option.map_some, Option.some.injEq, withDefaults,
    Derive.toRow_ofRow, (Function.LeftInverse.injective Derive.toRow_ofRow).eq_iff,
    Fields.reset_standIns_eq_iff _ DistinctKeys.keys_nodup (fun key gone _ => listed gone)]
  rfl

variable (T) in
/-- A default record that agrees with all stand-ins is steady everywhere. -/
theorem steadyAt_of_standIns
    (same : (Derive.fields (T := T)).standIns (Derive.toRow default) = Derive.toRow default)
    (key : String) : SteadyAt T key :=
  Fields.steadyAt_of_standIns _ same key

variable (T) in
/-- When the default record agrees with the stand-ins except for the fields of
the listed keys, and with none of those, the listed keys are the ones that
are not steady. -/
theorem steadyAt_iff_of_reset {drifts : List String}
    (same : (Derive.fields (T := T)).standIns (Derive.toRow default) =
      (Derive.fields (T := T)).reset drifts ((Derive.fields (T := T)).standIns (Derive.toRow default))
        (Derive.toRow default))
    (drifted : ∀ key ∈ drifts, ¬ SteadyAt T key) (key : String) : SteadyAt T key ↔ key ∉ drifts :=
  ⟨fun steady listed => drifted key listed steady, Fields.steadyAt_of_reset _ same⟩

variable (T) in
theorem steadyAt_iff_of_single {drift : String}
    (same : (Derive.fields (T := T)).standIns (Derive.toRow default) =
      (Derive.fields (T := T)).reset [drift]
        ((Derive.fields (T := T)).standIns (Derive.toRow default)) (Derive.toRow default))
    (drifted : ¬ SteadyAt T drift) (key : String) : SteadyAt T key ↔ key ∉ [drift] := by
  apply steadyAt_iff_of_reset T same
  intro other listed
  rw [List.mem_singleton.mp listed]
  exact drifted

end Serde
