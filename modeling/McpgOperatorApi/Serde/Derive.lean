import McpgOperatorApi.Serde.Wire

namespace Serde

open Collections

/-!
# Derived wire forms of records

A record type gets its wire form from the list of its fields.  Each field has
a wire key, a value that stands in for a missing key, and a test that leaves
the key out when writing.  A field carries the law that ties the last two
together: a value that is left out is the one that a missing key stands for.

A record is written as an object, one key after the other.  It is read from
an object, where unknown keys are ignored, or from an array that lists the
field values in order.

What survives a round trip is described field by field (`Fields.Restores`).
When all fields round trip, so does the record; a field of optional free-form
JSON does not, and its record states what becomes of it.
-/

/-! ## Names -/

/-- Drop underscores and raise the letter behind each of them. -/
def pascalChars : Bool → List Char → List Char
  | _, [] => []
  | capitalize, c :: rest =>
      if c = '_' then pascalChars true rest
      else (if capitalize then c.toUpper else c) :: pascalChars false rest

/-- The `camelCase` spelling of a `snake_case` field name. -/
def camelCase (field : String) : String :=
  match pascalChars true field.toList with
  | [] => ""
  | first :: rest => String.ofList (first.toLower :: rest)

/-- The `snake_case` spelling of a `PascalCase` variant name. -/
def snakeCase (variant : String) : String :=
  match variant.toList with
  | [] => ""
  | first :: rest =>
      String.ofList (first.toLower ::
        rest.flatMap (fun c => if c.isUpper then ['_', c.toLower] else [c]))

example : camelCase "pod_disruption_budget" = "podDisruptionBudget" := by decide

/-! ## Fields -/

/-- One field of a record.  A field without an `omitted` value is mandatory. -/
structure Field (α : Type) where
  key : String
  omitted : Option α
  skip : α → Bool
  skip_restored : ∀ x, skip x = true → omitted = some x

/-- The fields of a record, whose values form a row. -/
inductive Fields : Type → Type 1 where
  | nil : Fields Unit
  | cons {α β : Type} [Wire α] (field : Field α) (rest : Fields β) : Fields (α × β)

namespace Fields

/-- A mandatory field. -/
abbrev required {α β : Type} [Wire α] (name : String) (rest : Fields β) : Fields (α × β) :=
  .cons ⟨camelCase name, none, fun _ => false, fun _ skipped => Bool.noConfusion skipped⟩ rest

/-- A field with a value of its own for a missing key, written always. -/
abbrev defaultedTo {α β : Type} [Wire α] (omitted : α) (name : String) (rest : Fields β) :
    Fields (α × β) :=
  .cons ⟨camelCase name, some omitted, fun _ => false, fun _ skipped => Bool.noConfusion skipped⟩
    rest

/-- A field whose missing key stands for the default of its type, written
always. -/
abbrev defaulted {α β : Type} [Wire α] [Inhabited α] (name : String) (rest : Fields β) :
    Fields (α × β) :=
  defaultedTo default name rest

/-- An option that is left out when absent. -/
abbrev optional {α β : Type} [Wire α] (name : String) (rest : Fields β) : Fields (Option α × β) :=
  .cons ⟨camelCase name, some none, Option.isNone,
    fun _ absent => congrArg some (Option.isNone_iff_eq_none.mp absent).symm⟩ rest

/-- A list that is left out when empty. -/
abbrev list {α β : Type} [Wire α] (name : String) (rest : Fields β) : Fields (List α × β) :=
  .cons ⟨camelCase name, some [], List.isEmpty,
    fun _ vacant => congrArg some (List.isEmpty_iff.mp vacant).symm⟩ rest

/-- A map that is left out when empty. -/
abbrev map {α β : Type} [Wire α] (name : String) (rest : Fields β) :
    Fields (BTreeMap String α × β) :=
  .cons ⟨camelCase name, some .empty, BTreeMap.isEmpty,
    fun _ vacant => congrArg some (BTreeMap.eq_empty_of_isEmpty vacant).symm⟩ rest

/-- A text that is left out when empty. -/
abbrev text {β : Type} (name : String) (rest : Fields β) : Fields (String × β) :=
  .cons ⟨camelCase name, some "", String.isEmpty,
    fun _ vacant => congrArg some (String.isEmpty_iff.mp vacant).symm⟩ rest

/-- The wire keys, in field order. -/
def keys : {ρ : Type} → Fields ρ → List String
  | _, nil => []
  | _, @cons _ _ _ field rest => field.key :: rest.keys

/-- Write a row, one field after the other. -/
def serializeInto : {ρ : Type} → Fields ρ → ρ → BTreeMap String Value → BTreeMap String Value
  | _, nil, _, object => object
  | _, @cons _ _ _ field rest, (x, xs), object =>
      rest.serializeInto xs
        (if field.skip x then object else object.insert field.key (serialize x))

/-- Read a row from the values of its keys. -/
def visitMap : {ρ : Type} → Fields ρ → (String → Option Value) → Option ρ
  | _, nil, _ => some ()
  | _, @cons _ _ _ field rest, lookup =>
      (match lookup field.key with
        | some value => deserialize value
        | none => field.omitted).bind fun x => (rest.visitMap lookup).map fun xs => (x, xs)

/-- Read a row from a list of values in field order. -/
def visitSeq : {ρ : Type} → Fields ρ → List Value → Option ρ
  | _, nil, [] => some ()
  | _, nil, _ :: _ => none
  | _, @cons _ _ _ field rest, values =>
      (match values with
        | value :: _ => deserialize value
        | [] => field.omitted).bind fun x => (rest.visitSeq values.tail).map fun xs => (x, xs)

/-- What is written under a key for a row. -/
def written : {ρ : Type} → Fields ρ → ρ → String → Option Value
  | _, nil, _, _ => none
  | _, @cons _ _ _ field rest, (x, xs), key =>
      if key = field.key then if field.skip x then none else some (serialize x)
      else rest.written xs key

/-- Writing the first row and reading it back gives the second: every skipped
value is the one its missing key stands for, and every written value is read
as the corresponding value. -/
def Restores : {ρ : Type} → Fields ρ → ρ → ρ → Prop
  | _, nil, _, _ => True
  | _, @cons _ _ _ field rest, (x, xs), (y, ys) =>
      (if field.skip x then field.omitted = some y else deserialize (serialize x) = some y) ∧
        rest.Restores xs ys

/-- Each value that a field leaves out is the one its missing key stands for. -/
def SkipsRestored : {ρ : Type} → Fields ρ → Prop
  | _, nil => True
  | _, @cons _ _ _ field rest =>
      (∀ x, field.skip x = true → field.omitted = some x) ∧ rest.SkipsRestored

theorem skipsRestored {ρ : Type} (fields : Fields ρ) : fields.SkipsRestored := by
  induction fields with
  | nil => trivial
  | cons field rest ih => exact ⟨field.skip_restored, ih⟩

/-- Reading only looks at the keys of the fields. -/
theorem visitMap_congr {ρ : Type} (fields : Fields ρ) {first second : String → Option Value}
    (agree : ∀ key ∈ fields.keys, first key = second key) :
    fields.visitMap first = fields.visitMap second := by
  induction fields with
  | nil => rfl
  | cons field rest ih =>
      rw [visitMap, visitMap, agree field.key List.mem_cons_self,
        ih (fun key listed => agree key (List.mem_cons_of_mem _ listed))]

/-- Writing a row sets the keys of its fields and leaves all others alone. -/
theorem get?_serializeInto {ρ : Type} (fields : Fields ρ) (distinct : fields.keys.Nodup) (row : ρ)
    (object : BTreeMap String Value) (key : String) :
    (fields.serializeInto row object).get? key =
      (fields.written row key).or (object.get? key) := by
  induction fields generalizing object with
  | nil => rfl
  | cons field rest ih =>
      rcases row with ⟨x, xs⟩
      rcases List.nodup_cons.mp distinct with ⟨fresh, restDistinct⟩
      rw [serializeInto, ih restDistinct, written]
      by_cases here : key = field.key
      · subst here
        have unwritten : rest.written xs field.key = none := written_of_notMem rest fresh xs
        rw [unwritten, if_pos rfl, Option.none_or]
        by_cases skipped : field.skip x = true
        · rw [if_pos skipped, if_pos skipped, Option.none_or]
        · rw [if_neg skipped, if_neg skipped, BTreeMap.get?_insert_self, Option.some_or]
      · rw [if_neg here]
        by_cases skipped : field.skip x = true
        · rw [if_pos skipped]
        · rw [if_neg skipped, BTreeMap.get?_insert_of_ne _ here]
where
  written_of_notMem {σ : Type} (rest : Fields σ) {key : String} (absent : key ∉ rest.keys)
      (row : σ) : rest.written row key = none := by
    induction rest with
    | nil => rfl
    | cons field rest ih =>
        rcases row with ⟨x, xs⟩
        rcases not_or.mp (fun listed => absent (List.mem_cons.mpr listed)) with ⟨other, later⟩
        rw [written, if_neg other, ih later]

/-- What a row restores to is what is read from its written form. -/
theorem visitMap_written {ρ : Type} (fields : Fields ρ) (distinct : fields.keys.Nodup)
    {row restored : ρ} (restores : fields.Restores row restored) :
    fields.visitMap (fields.written row) = some restored := by
  induction fields with
  | nil => rfl
  | cons field rest ih =>
      rcases row with ⟨x, xs⟩
      rcases restored with ⟨y, ys⟩
      rcases List.nodup_cons.mp distinct with ⟨fresh, restDistinct⟩
      rcases restores with ⟨here, later⟩
      have behind : rest.visitMap (written (.cons field rest) (x, xs)) = some ys := by
        rw [← ih restDistinct later]
        apply visitMap_congr rest
        intro key listed
        have other : key ≠ field.key := fun same => fresh (same ▸ listed)
        rw [written, if_neg other]
      rw [visitMap, behind, written, if_pos rfl]
      by_cases skipped : field.skip x = true
      · rw [if_pos skipped] at here
        rw [if_pos skipped]
        simp only [here, Option.bind_some, Option.map_some]
      · rw [if_neg skipped] at here
        rw [if_neg skipped]
        simp only [here, Option.bind_some, Option.map_some]

/-- Every row is restored to itself. -/
class Lossless {ρ : Type} (fields : Fields ρ) : Prop where
  restores : ∀ row, fields.Restores row row

/-- A field whose type normalises restores to the normal form, provided that
the skipped values are normal. -/
theorem restores_cons {α β : Type} [Wire α] {field : Field α} {rest : Fields β} {norm : α → α}
    (normalises : NormalisesTo α norm) (normal : ∀ x, field.skip x = true → norm x = x) {x : α}
    {xs ys : β} (later : rest.Restores xs ys) :
    (cons field rest).Restores (x, xs) (norm x, ys) := by
  refine ⟨?_, later⟩
  by_cases skipped : field.skip x = true
  · rw [if_pos skipped, normal x skipped]
    exact field.skip_restored x skipped
  · rw [if_neg skipped]
    exact normalises x

/-- A field whose type round trips is restored. -/
theorem restores_cons_self {α β : Type} [Wire α] [RoundTrips α] {field : Field α} {rest : Fields β}
    {x : α} {xs ys : β} (later : rest.Restores xs ys) :
    (cons field rest).Restores (x, xs) (x, ys) :=
  restores_cons (normalisesTo_id α) (fun _ _ => rfl) later

/-- An optional field restores to the normal form of its payload. -/
theorem restores_optional {α β : Type} [Wire α] [NeverNull α] {name : String} {rest : Fields β}
    {norm : α → α} (normalises : NormalisesTo α norm) {x : Option α} {xs ys : β}
    (later : rest.Restores xs ys) : (optional name rest).Restores (x, xs) (x.map norm, ys) := by
  apply restores_cons normalises.option ?_ later
  intro payload absent
  rw [Option.isNone_iff_eq_none.mp absent, Option.map_none]

/-- A field with a list restores to the list of the normal forms. -/
theorem restores_list {α β : Type} [Wire α] {name : String} {rest : Fields β} {norm : α → α}
    (normalises : NormalisesTo α norm) {x : List α} {xs ys : β} (later : rest.Restores xs ys) :
    (list name rest).Restores (x, xs) (x.map norm, ys) := by
  apply restores_cons normalises.list ?_ later
  intro items vacant
  rw [List.isEmpty_iff.mp vacant, List.map_nil]

/-- A field of optional free-form JSON loses a present `null`. -/
theorem restores_dropNull {β : Type} {name : String} {rest : Fields β} {x : Option Value}
    {xs ys : β} (later : rest.Restores xs ys) :
    (optional name rest).Restores (x, xs) (dropNull x, ys) := by
  apply restores_cons normalisesTo_dropNull ?_ later
  intro payload absent
  rw [Option.isNone_iff_eq_none.mp absent]
  rfl

instance : Lossless nil := ⟨fun _ => trivial⟩

instance {α β : Type} [Wire α] [RoundTrips α] (field : Field α) (rest : Fields β)
    [Lossless rest] : Lossless (cons field rest) :=
  ⟨fun row => restores_cons_self (Lossless.restores row.2)⟩

end Fields

/-! ## Records -/

/-- A record type with its fields. -/
class Derive (T : Type) where
  Row : Type
  fields : Fields Row
  toRow : T → Row
  ofRow : Row → T
  ofRow_toRow : ∀ x, ofRow (toRow x) = x := by intro x; rfl
  toRow_ofRow : ∀ row, toRow (ofRow row) = row := by intro row; rfl

/-- No two fields of a record type share a key. -/
class DistinctKeys (T : Type) [Derive T] : Prop where
  keys_nodup : (Derive.fields (T := T)).keys.Nodup := by
    simp only [Derive.fields, Fields.keys]; decide +kernel

section Derive

variable {T : Type} [Derive T]

instance : Wire T where
  serialize x := .ofMap ((Derive.fields (T := T)).serializeInto (Derive.toRow x) .empty)
  deserialize
    | .object entries =>
        ((Derive.fields (T := T)).visitMap (Value.object entries).get?).map Derive.ofRow
    | .array values => ((Derive.fields (T := T)).visitSeq values).map Derive.ofRow
    | _ => none

instance : NeverNull T := ⟨fun _ => Value.noConfusion⟩

theorem deserialize_object (entries : List (String × Value)) :
    deserialize (α := T) (.object entries) =
      ((Derive.fields (T := T)).visitMap (Value.object entries).get?).map Derive.ofRow := rfl

variable [DistinctKeys T]

/-- A record is read back as the record whose row its own row restores to. -/
theorem deserialize_of_restores {x y : T}
    (restores : (Derive.fields (T := T)).Restores (Derive.toRow x) (Derive.toRow y)) :
    deserialize (serialize x) = some y := by
  have lookups : ∀ key ∈ (Derive.fields (T := T)).keys,
      (Value.ofMap ((Derive.fields (T := T)).serializeInto (Derive.toRow x) .empty)).get? key =
        (Derive.fields (T := T)).written (Derive.toRow x) key := by
    intro key _
    rw [Value.get?_ofMap, Fields.get?_serializeInto _ DistinctKeys.keys_nodup, BTreeMap.get?_empty,
      Option.or_none]
  change ((Derive.fields (T := T)).visitMap (Value.ofMap _).get?).map Derive.ofRow = some y
  rw [Fields.visitMap_congr _ lookups, Fields.visitMap_written _ DistinctKeys.keys_nodup restores,
    Option.map_some, Derive.ofRow_toRow]

variable (T) in
/-- A record whose fields all round trip does so itself. -/
theorem roundTrips_of_lossless
    (lossless : (Derive.fields (T := T)).Lossless := by
      dsimp only [Derive.fields, Derive.Row]; infer_instance) :
    RoundTrips T :=
  ⟨fun x => deserialize_of_restores (lossless.restores (Derive.toRow x))⟩

end Derive

/-! ## Enumerations -/

/-- An enumeration of variants without data, with their wire names. -/
class UnitEnum (α : Type) where
  variants : List α
  variant : α → String
  listed : ∀ x, x ∈ variants
  distinct : (variants.map variant).Nodup

section UnitEnum

variable {α : Type} [UnitEnum α]

/-- A variant is written as its name.  It is read from its name, or from an
object with its name as the only key and `null` under it. -/
instance : Wire α where
  serialize x := .string (UnitEnum.variant x)
  deserialize
    | .string name => UnitEnum.variants.find? (fun x : α => UnitEnum.variant x == name)
    | .object [(name, .null)] => UnitEnum.variants.find? (fun x : α => UnitEnum.variant x == name)
    | _ => none

instance : NeverNull α := ⟨fun _ => Value.noConfusion⟩

instance : RoundTrips α where
  deserialize_serialize x := by
    change UnitEnum.variants.find? (fun y : α => UnitEnum.variant y == UnitEnum.variant x) = some x
    cases found : UnitEnum.variants.find? (fun y : α => UnitEnum.variant y == UnitEnum.variant x) with
    | none => exact absurd (beq_self_eq_true _) (List.find?_eq_none.mp found x (UnitEnum.listed x))
    | some y =>
        have hit := List.find?_some found
        have sameName : UnitEnum.variant y = UnitEnum.variant x := beq_iff_eq.mp hit
        rw [List.inj_on_of_nodup_map UnitEnum.distinct (UnitEnum.listed y) (UnitEnum.listed x) sameName]

end UnitEnum

end Serde
