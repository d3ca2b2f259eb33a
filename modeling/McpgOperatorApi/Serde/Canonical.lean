import McpgOperatorApi.Serde.Omission

namespace Serde

open Collections

/-!
# Canonical documents

One value is read from many documents: keys come in any order, unknown keys
stand beside them, and a key may be missing where its stand-in value could have
been written.  A wire form *rereads* when a value that was read from some
document is read back from its own written form.  This asks less than a round
trip, since nothing is said about values that no document decodes to; free-form
JSON under an option rereads, though it does not round trip.

When a wire form rereads, the written form is a canonical document: it stands
for the documents with the same value, and rewriting it again changes nothing.
-/

/-- Every value that was read is read back from its written form. -/
class Rereads (α : Type) [Wire α] : Prop where
  reread : ∀ {document : Value} {x : α}, deserialize document = some x →
    deserialize (serialize x) = some x

export Rereads (reread)

instance (priority := low) {α : Type} [Wire α] [RoundTrips α] : Rereads α :=
  ⟨fun _ => deserialize_serialize _⟩

instance : Rereads (Option Value) where
  reread := by
    intro document x read
    cases document with
    | null =>
        cases read
        rfl
    | _ =>
        cases read
        rfl

instance {α : Type} [Wire α] [NeverNull α] [Rereads α] : Rereads (Option α) where
  reread := by
    intro document x read
    cases x with
    | none => rfl
    | some x =>
        have present : document ≠ .null := by
          intro missing
          rw [missing] at read
          cases read
        rw [deserialize_option_of_ne_null present, Option.map_eq_some_iff] at read
        rcases read with ⟨payload, readPayload, same⟩
        cases same
        change deserialize (α := Option α) (serialize x) = _
        rw [deserialize_option_of_ne_null (NeverNull.serialize_ne_null x), reread readPayload]
        rfl

instance {α : Type} [Wire α] [Rereads α] : Rereads (List α) where
  reread := by
    intro document xs read
    cases document with
    | array items =>
        change items.mapM deserialize = some xs at read
        change (xs.map serialize).mapM deserialize = some xs
        induction items generalizing xs with
        | nil =>
            cases read
            rfl
        | cons first rest ih =>
            rw [List.mapM_cons] at read
            rcases Option.bind_eq_some_iff.mp read with ⟨x, readFirst, readTail⟩
            rcases Option.bind_eq_some_iff.mp readTail with ⟨tail, readRest, same⟩
            cases same
            rw [List.map_cons, List.mapM_cons, reread readFirst, ih readRest]
            rfl
    | _ => cases read

/-! ## Records -/

/-- The stand-in value of a missing key is left out again or read back. -/
class Field.Reproduces {α : Type} [Wire α] (field : Field α) : Prop where
  reproduced : ∀ x, field.omitted = some x → field.skip x = false →
    deserialize (serialize x) = some x

section Reproduces

variable {α : Type} [Wire α] {key : String}

instance (priority := low) [RoundTrips α] (field : Field α) : field.Reproduces :=
  ⟨fun x _ _ => deserialize_serialize x⟩

instance {skip : α → Bool} {restored} : Field.Reproduces ⟨key, none, skip, restored⟩ := by
  constructor
  intro x standsIn
  cases standsIn

instance {restored} : Field.Reproduces (α := Option α) ⟨key, some none, Option.isNone, restored⟩ := by
  constructor
  intro x standsIn kept
  cases standsIn
  cases kept

instance {restored} : Field.Reproduces (α := List α) ⟨key, some [], List.isEmpty, restored⟩ := by
  constructor
  intro x standsIn kept
  cases standsIn
  cases kept

end Reproduces

namespace Fields

/-- The first field is read from the first value, if there is one. -/
theorem visitSeq_cons {α β : Type} [Wire α] (field : Field α) (rest : Fields β)
    (values : List Value) :
    (cons field rest).visitSeq values =
      (match values with
        | value :: _ => deserialize value
        | [] => field.omitted).bind fun x => (rest.visitSeq values.tail).map fun xs => (x, xs) := by
  cases values <;> rfl

/-- Every row that was read is restored to itself. -/
class Settles {ρ : Type} (fields : Fields ρ) : Prop where
  restores_of_visitMap : ∀ {lookup : String → Option Value} {row : ρ},
    fields.visitMap lookup = some row → fields.Restores row row
  restores_of_visitSeq : ∀ {values : List Value} {row : ρ},
    fields.visitSeq values = some row → fields.Restores row row

instance : Settles nil := ⟨fun _ => trivial, fun _ => trivial⟩

/-- A field value that was read or stands in for a missing key is restored. -/
theorem restores_cons_of_read {α β : Type} [Wire α] [Rereads α] {field : Field α} [field.Reproduces]
    {rest : Fields β} {x : α} {xs : β}
    (origin : (∃ document, deserialize document = some x) ∨ field.omitted = some x)
    (later : rest.Restores xs xs) : (cons field rest).Restores (x, xs) (x, xs) := by
  refine ⟨?_, later⟩
  by_cases skipped : field.skip x = true
  · rw [if_pos skipped]
    exact field.skip_restored x skipped
  · rw [if_neg skipped]
    rcases origin with ⟨document, read⟩ | standsIn
    · exact reread read
    · exact Field.Reproduces.reproduced x standsIn (Bool.eq_false_iff.mpr skipped)

instance {α β : Type} [Wire α] [Rereads α] (field : Field α) [field.Reproduces] (rest : Fields β)
    [Settles rest] : Settles (cons field rest) where
  restores_of_visitMap := by
    intro lookup row read
    rw [visitMap, Option.bind_eq_some_iff] at read
    rcases read with ⟨x, readHere, readRest⟩
    rcases Option.map_eq_some_iff.mp readRest with ⟨xs, readLater, rfl⟩
    apply restores_cons_of_read _ (Settles.restores_of_visitMap readLater)
    cases found : lookup field.key with
    | some document =>
        rw [found] at readHere
        exact Or.inl ⟨document, readHere⟩
    | none =>
        rw [found] at readHere
        exact Or.inr readHere
  restores_of_visitSeq := by
    intro values row read
    rw [visitSeq_cons] at read
    rcases Option.bind_eq_some_iff.mp read with ⟨x, readHere, readRest⟩
    rcases Option.map_eq_some_iff.mp readRest with ⟨xs, readLater, rfl⟩
    apply restores_cons_of_read _ (Settles.restores_of_visitSeq readLater)
    cases values with
    | cons document _ => exact Or.inl ⟨document, readHere⟩
    | nil => exact Or.inr readHere

/-- Dropped keys that leave a row readable are among those that may be missing. -/
theorem mem_defaultedKeys_of_visitMap_without {ρ : Type} {fields : Fields ρ} {dropped : List String}
    {lookup : String → Option Value} {row : ρ}
    (read : fields.visitMap (fun key => if key ∈ dropped then none else lookup key) = some row) :
    ∀ key ∈ dropped, key ∈ fields.keys → key ∈ fields.defaultedKeys := by
  intro key gone listed
  induction fields with
  | nil => exact listed
  | cons field rest ih =>
      rw [visitMap, Option.bind_eq_some_iff] at read
      rcases read with ⟨x, readHere, readRest⟩
      rcases Option.map_eq_some_iff.mp readRest with ⟨xs, readLater, -⟩
      rw [defaultedKeys]
      rcases List.mem_cons.mp listed with rfl | later
      · rw [if_pos gone] at readHere
        change field.omitted = some x at readHere
        rw [readHere, Option.isSome_some, if_pos rfl]
        exact List.mem_cons_self
      · have inside := ih readLater later
        split
        · exact List.mem_cons_of_mem _ inside
        · exact inside

/-- A list of values in field order is read as the object that gives the
leading keys these values. -/
theorem visitSeq_eq_visitMap {ρ : Type} (fields : Fields ρ) (distinct : fields.keys.Nodup)
    {values : List Value} (short : values.length ≤ fields.keys.length) :
    fields.visitSeq values = fields.visitMap (fun key => (fields.keys.zip values).lookup key) := by
  induction fields generalizing values with
  | nil =>
      cases values with
      | nil => rfl
      | cons value rest => exact absurd short (Nat.not_succ_le_zero _)
  | cons field rest ih =>
      rcases List.nodup_cons.mp distinct with ⟨fresh, restDistinct⟩
      cases values with
      | nil =>
          have behind : rest.visitSeq [] = rest.visitMap (fun key => (rest.keys.zip []).lookup key) :=
            ih restDistinct (Nat.zero_le _)
          rw [List.zip_nil_right] at behind
          rw [visitSeq_cons, List.tail_nil, behind, List.zip_nil_right]
          rfl
      | cons value values =>
          have shorter : values.length ≤ rest.keys.length := Nat.le_of_succ_le_succ short
          have behind : rest.visitMap (fun key => ((cons field rest).keys.zip (value :: values)).lookup key) =
              rest.visitMap (fun key => (rest.keys.zip values).lookup key) := by
            apply visitMap_congr rest
            intro key listed
            have other : key ≠ field.key := fun same => fresh (same ▸ listed)
            rw [keys, List.zip_cons_cons, List.lookup_cons, beq_eq_false_iff_ne.mpr other]
          have here : ((cons field rest).keys.zip (value :: values)).lookup field.key = some value := by
            rw [keys, List.zip_cons_cons, List.lookup_cons, beq_self_eq_true]
          rw [visitSeq_cons, visitMap, behind, here, List.tail_cons, ih restDistinct shorter]

/-- A list with more values than there are fields is refused. -/
theorem visitSeq_eq_none {ρ : Type} (fields : Fields ρ) {values : List Value}
    (long : fields.keys.length < values.length) : fields.visitSeq values = none := by
  induction fields generalizing values with
  | nil =>
      cases values with
      | nil => exact absurd long (Nat.lt_irrefl _)
      | cons value rest => rfl
  | cons field rest ih =>
      cases values with
      | nil => exact absurd long (Nat.not_lt_zero _)
      | cons value values =>
          have longer : rest.keys.length < values.length := Nat.lt_of_succ_lt_succ long
          rw [visitSeq_cons, List.tail_cons, ih longer]
          simp only [Option.map_none, Option.bind_fun_none]

end Fields

section Derive

variable {T : Type} [Derive T] [DistinctKeys T]

variable (T) in
/-- A record rereads when each of its fields does. -/
theorem rereads_of_settles
    (settles : (Derive.fields (T := T)).Settles := by
      dsimp only [Derive.fields, Derive.Row]; infer_instance) :
    Rereads T where
  reread := by
    intro document x read
    apply deserialize_of_restores
    cases document with
    | object entries =>
        rcases Option.map_eq_some_iff.mp read with ⟨row, readRow, rfl⟩
        rw [Derive.toRow_ofRow]
        exact settles.restores_of_visitMap readRow
    | array values =>
        rcases Option.map_eq_some_iff.mp read with ⟨row, readRow, rfl⟩
        rw [Derive.toRow_ofRow]
        exact settles.restores_of_visitSeq readRow
    | _ => cases read

end Derive

/-! ## The canonical document -/

/-- The written form of the value of a document. -/
def canonicalise (α : Type) [Wire α] (document : Value) : Option Value :=
  (deserialize (α := α) document).map serialize

section Canonicalise

variable {α : Type} [Wire α] [Rereads α] {document canonical : Value}

/-- The canonical document has the value of the document. -/
theorem deserialize_of_canonicalise (written : canonicalise α document = some canonical) :
    deserialize (α := α) canonical = deserialize document := by
  rcases Option.map_eq_some_iff.mp written with ⟨x, read, rfl⟩
  rw [read]
  exact reread read

/-- A canonical document is its own canonical document. -/
theorem canonicalise_idem (written : canonicalise α document = some canonical) :
    canonicalise α canonical = some canonical := by
  rw [canonicalise, deserialize_of_canonicalise written]
  exact written

/-- Documents have one canonical document exactly when they have one value. -/
theorem canonicalise_eq_iff {other otherCanonical : Value}
    (written : canonicalise α document = some canonical)
    (otherWritten : canonicalise α other = some otherCanonical) :
    canonical = otherCanonical ↔ deserialize (α := α) document = deserialize other := by
  constructor
  · intro same
    rw [← deserialize_of_canonicalise written, same, deserialize_of_canonicalise otherWritten]
  · intro same
    rw [canonicalise, same] at written
    exact Option.some.inj (written.symm.trans otherWritten)

end Canonicalise

section Record

variable {T : Type} [Derive T]

variable (T) in
/-- The wire keys of a record. -/
def wireKeys : List String :=
  (Derive.fields (T := T)).keys

/-- Documents that agree on the wire keys have the same canonical document. -/
theorem canonicalise_congr {first second : List (String × Value)}
    (agree : ∀ key ∈ wireKeys T, first.lookup key = second.lookup key) :
    canonicalise T (.object first) = canonicalise T (.object second) := by
  have lookups : ∀ key ∈ wireKeys T, (Value.object first).get? key = (Value.object second).get? key :=
    agree
  rw [canonicalise, canonicalise, deserialize_object, deserialize_object,
    Fields.visitMap_congr _ lookups]

/-- A canonical document lists wire keys only, in increasing order. -/
theorem keys_of_canonicalise [DistinctKeys T] {document canonical : Value}
    (written : canonicalise T document = some canonical) :
    ∃ entries, canonical = .object entries ∧ KeysIncreasing entries ∧
      entries.map Prod.fst ⊆ wireKeys T := by
  rcases Option.map_eq_some_iff.mp written with ⟨x, -, rfl⟩
  refine ⟨_, rfl, BTreeMap.increasing _, ?_⟩
  intro key listed
  rcases (BTreeMap.mem_keys_iff _ key).mp listed with ⟨value, found⟩
  rw [Fields.get?_serializeInto _ DistinctKeys.keys_nodup, BTreeMap.get?_empty, Option.or_none] at found
  by_contra unknown
  rw [Fields.get?_serializeInto.written_of_notMem _ unknown] at found
  cases found

theorem get?_without (dropped : List String) (entries : List (String × Value)) :
    (Value.object (Value.without dropped entries)).get? =
      fun key => if key ∈ dropped then none else (Value.object entries).get? key :=
  funext (Value.lookup_without dropped entries)

/-- The record with the stand-in values in the dropped fields. -/
def withStandIns (dropped : List String) (x : T) : T :=
  Derive.ofRow ((Derive.fields (T := T)).reset dropped
    ((Derive.fields (T := T)).standIns (Derive.toRow x)) (Derive.toRow x))

variable [DistinctKeys T] {entries : List (String × Value)} {x : T}

/-- An array is read as the object that gives the leading keys its values; it
must not be longer than the record. -/
theorem deserialize_array (values : List Value) :
    deserialize (α := T) (.array values) =
      if values.length ≤ (wireKeys T).length
      then deserialize (.object ((wireKeys T).zip values)) else none := by
  change ((Derive.fields (T := T)).visitSeq values).map Derive.ofRow = _
  split
  · rename_i short
    rw [Fields.visitSeq_eq_visitMap _ DistinctKeys.keys_nodup short]
    rfl
  · rename_i long
    rw [Fields.visitSeq_eq_none _ (Nat.lt_of_not_le long), Option.map_none]

/-- Dropping keys that may be missing puts their stand-in values in place. -/
theorem deserialize_without (decoded : deserialize (.object entries) = some x) {dropped : List String}
    (listed : ∀ key ∈ dropped, key ∈ wireKeys T → key ∈ defaultedKeys T) :
    deserialize (.object (Value.without dropped entries)) = some (withStandIns dropped x) := by
  rcases Option.map_eq_some_iff.mp decoded with ⟨row, read, rfl⟩
  rw [deserialize_object, get?_without, Fields.visitMap_without _ DistinctKeys.keys_nodup listed read,
    withStandIns, Derive.toRow_ofRow]
  exact Option.map_some _ _

/-- Keys can be dropped from an accepted document exactly when those of the
record may be missing. -/
theorem isSome_deserialize_without_iff (decoded : deserialize (.object entries) = some x)
    (dropped : List String) :
    (deserialize (α := T) (.object (Value.without dropped entries))).isSome = true ↔
      ∀ key ∈ dropped, key ∈ wireKeys T → key ∈ defaultedKeys T := by
  constructor
  · intro accepted
    rcases Option.isSome_iff_exists.mp accepted with ⟨y, read⟩
    rcases Option.map_eq_some_iff.mp read with ⟨row, readRow, -⟩
    rw [get?_without] at readRow
    exact Fields.mem_defaultedKeys_of_visitMap_without readRow
  · intro listed
    rw [deserialize_without decoded listed, Option.isSome_some]

end Record

end Serde
