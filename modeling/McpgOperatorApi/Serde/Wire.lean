import McpgOperatorApi.Serde.Value

namespace Serde

open Collections

/-!
# Wire forms

A type has a wire form when its values can be written as JSON trees and read
back.  Reading is partial.  Two properties are tracked separately, because
the first does not follow from the parts for optional values:

* a wire form *round trips* when every written value is read back unchanged;
* it is *never null* when no value is written as `null`.

An absent option is written as `null`.  An option therefore round trips only
over a wire form that is never null; over free-form JSON, a present `null`
comes back as an absence, and `dropNull` says what becomes of the value.
-/

/-- Writing to and reading from JSON trees. -/
class Wire (α : Type) where
  serialize : α → Value
  deserialize : Value → Option α

export Wire (serialize deserialize)

/-- Every written value is read back. -/
class RoundTrips (α : Type) [Wire α] : Prop where
  deserialize_serialize : ∀ x : α, deserialize (serialize x) = some x

export RoundTrips (deserialize_serialize)

/-- No value is written as `null`. -/
class NeverNull (α : Type) [Wire α] : Prop where
  serialize_ne_null : ∀ x : α, serialize x ≠ .null

/-- Every written value is read back as its normal form. -/
def NormalisesTo (α : Type) [Wire α] (norm : α → α) : Prop :=
  ∀ x : α, deserialize (serialize x) = some (norm x)

theorem normalisesTo_id (α : Type) [Wire α] [RoundTrips α] : NormalisesTo α id :=
  deserialize_serialize

attribute [simp] RoundTrips.deserialize_serialize

/-- How far a wire form restores values: up to a normal form in general, and
exactly for the values with a given property, which it tells apart. -/
structure RestoresUpTo (α : Type) [Wire α] (norm : α → α) (regular : α → Prop) : Prop where
  normalises : NormalisesTo α norm
  restores : ∀ x, regular x → deserialize (serialize x) = some x
  injective : Set.InjOn (serialize (α := α)) {x | regular x}

theorem restoresUpTo_of_normalises {α : Type} [Wire α] {norm : α → α} {regular : α → Prop}
    (normalises : NormalisesTo α norm) (normal : ∀ x, regular x → norm x = x) :
    RestoresUpTo α norm regular := by
  have restores : ∀ x, regular x → deserialize (serialize x) = some x := fun x isRegular =>
    (normalises x).trans (congrArg some (normal x isRegular))
  refine ⟨normalises, restores, ?_⟩
  intro x xRegular y yRegular same
  have read := restores x xRegular
  rw [same, restores y yRegular] at read
  exact (Option.some.inj read).symm

theorem restoresUpTo_of_roundTrips (α : Type) [Wire α] [RoundTrips α] :
    RestoresUpTo α id (fun _ => True) :=
  restoresUpTo_of_normalises (normalisesTo_id α) (fun _ _ => rfl)

/-! ## Scalars -/

instance : Wire Value := ⟨id, some⟩
instance : RoundTrips Value := ⟨fun _ => rfl⟩

instance : Wire Bool := ⟨.bool, Value.asBool⟩
instance : RoundTrips Bool := ⟨fun _ => rfl⟩
instance : NeverNull Bool := ⟨fun _ => Value.noConfusion⟩

instance : Wire String := ⟨.string, Value.asStr⟩
instance : RoundTrips String := ⟨fun _ => rfl⟩
instance : NeverNull String := ⟨fun _ => Value.noConfusion⟩

/-- A fixed-width integer type: its values as integers, and the partial
conversion back that fails outside of its range. -/
class MachineInt (α : Type) where
  toInt : α → Int
  ofInt? : Int → Option α
  bounded : ∀ x, -2 ^ 63 ≤ toInt x ∧ toInt x < 2 ^ 64
  ofInt?_toInt : ∀ x, ofInt? (toInt x) = some x

instance : MachineInt Int32 where
  toInt := Int32.toInt
  ofInt? i := if -2 ^ 31 ≤ i ∧ i < 2 ^ 31 then some (Int32.ofInt i) else none
  bounded x := by
    have low := Int32.le_toInt x
    have high := Int32.toInt_lt x
    omega
  ofInt?_toInt x := by
    rw [if_pos ⟨Int32.le_toInt x, Int32.toInt_lt x⟩, Int32.ofInt_toInt]

instance : MachineInt Int64 where
  toInt := Int64.toInt
  ofInt? i := if -2 ^ 63 ≤ i ∧ i < 2 ^ 63 then some (Int64.ofInt i) else none
  bounded x := by
    have low := Int64.le_toInt x
    have high := Int64.toInt_lt x
    omega
  ofInt?_toInt x := by
    rw [if_pos ⟨Int64.le_toInt x, Int64.toInt_lt x⟩, Int64.ofInt_toInt]

instance : MachineInt UInt8 where
  toInt x := x.toNat
  ofInt? i := if 0 ≤ i ∧ i < 2 ^ 8 then some (UInt8.ofNat i.toNat) else none
  bounded x := by
    have high := x.toNat_lt
    omega
  ofInt?_toInt x := by
    have high := x.toNat_lt
    rw [if_pos (by omega), Int.toNat_natCast, UInt8.ofNat_toNat]

instance : MachineInt UInt16 where
  toInt x := x.toNat
  ofInt? i := if 0 ≤ i ∧ i < 2 ^ 16 then some (UInt16.ofNat i.toNat) else none
  bounded x := by
    have high := x.toNat_lt
    omega
  ofInt?_toInt x := by
    have high := x.toNat_lt
    rw [if_pos (by omega), Int.toNat_natCast, UInt16.ofNat_toNat]

/-- A machine integer is read from an integer in its range, never from a
float. -/
instance {α : Type} [MachineInt α] : Wire α where
  serialize x := .number (.integer (MachineInt.toInt x) (MachineInt.bounded x))
  deserialize
    | .number (.integer i _) => MachineInt.ofInt? i
    | _ => none

instance {α : Type} [MachineInt α] : RoundTrips α := ⟨MachineInt.ofInt?_toInt⟩
instance {α : Type} [MachineInt α] : NeverNull α := ⟨fun _ => Value.noConfusion⟩

/-- Instants with their texts in the RFC 3339 notation. -/
class Rfc3339 (τ : Type) where
  toRfc3339 : τ → String
  parseFromRfc3339 : String → Option τ

export Rfc3339 (toRfc3339 parseFromRfc3339)

/-- The text of every instant is read back. -/
class LawfulRfc3339 (τ : Type) [Rfc3339 τ] : Prop where
  parse_toRfc3339 : ∀ t : τ, parseFromRfc3339 (toRfc3339 t) = some t

instance {τ : Type} [Rfc3339 τ] : Wire τ where
  serialize t := .string (toRfc3339 t)
  deserialize value := value.asStr.bind parseFromRfc3339

instance {τ : Type} [Rfc3339 τ] [LawfulRfc3339 τ] : RoundTrips τ :=
  ⟨LawfulRfc3339.parse_toRfc3339⟩

instance {τ : Type} [Rfc3339 τ] : NeverNull τ := ⟨fun _ => Value.noConfusion⟩

/-! ## Options, lists and maps -/

instance {α : Type} [Wire α] : Wire (Option α) where
  serialize
    | none => .null
    | some x => serialize x
  deserialize
    | .null => some none
    | value => (deserialize value).map some

theorem deserialize_option_of_ne_null {α : Type} [Wire α] {value : Value} (present : value ≠ .null) :
    deserialize (α := Option α) value = (deserialize (α := α) value).map some := by
  cases value with
  | null => exact absurd rfl present
  | _ => rfl

/-- Normalising under an option whose payload is never written as `null`. -/
theorem NormalisesTo.option {α : Type} [Wire α] [NeverNull α] {norm : α → α}
    (normalises : NormalisesTo α norm) : NormalisesTo (Option α) (Option.map norm) := by
  intro x
  cases x with
  | none => rfl
  | some x =>
      change deserialize (α := Option α) (serialize x) = _
      rw [deserialize_option_of_ne_null (NeverNull.serialize_ne_null x), normalises x]
      rfl

/-- An option whose payload is normal is normal. -/
theorem option_map_norm_eq_self {α : Type} {norm : α → α} {x : Option α}
    (normal : ∀ payload ∈ x, norm payload = payload) : x.map norm = x := by
  cases x with
  | none => rfl
  | some payload => rw [Option.map_some, normal payload rfl]

instance {α : Type} [Wire α] [RoundTrips α] [NeverNull α] : RoundTrips (Option α) where
  deserialize_serialize x := by
    rw [(normalisesTo_id α).option x, Option.map_id, id]

/-- A present `null` does not survive the wire. -/
def dropNull : Option Value → Option Value
  | some .null => none
  | value => value

theorem normalisesTo_dropNull : NormalisesTo (Option Value) dropNull := by
  intro x
  cases x with
  | none => rfl
  | some value => cases value <;> rfl

theorem dropNull_of_ne {value : Option Value} (present : value ≠ some .null) :
    dropNull value = value := by
  cases value with
  | none => rfl
  | some value =>
      cases value with
      | null => exact absurd rfl present
      | _ => rfl

instance {α : Type} [Wire α] : Wire (List α) where
  serialize items := .array (items.map serialize)
  deserialize
    | .array items => items.mapM deserialize
    | _ => none

theorem NormalisesTo.list {α : Type} [Wire α] {norm : α → α} (normalises : NormalisesTo α norm) :
    NormalisesTo (List α) (List.map norm) := by
  intro items
  change (items.map serialize).mapM deserialize = _
  induction items with
  | nil => rfl
  | cons first rest ih =>
      rw [List.map_cons, List.mapM_cons, normalises first, ih]
      rfl

/-- A list whose elements are normal is normal. -/
theorem map_norm_eq_self {α : Type} {norm : α → α} {items : List α}
    (normal : ∀ x ∈ items, norm x = x) : items.map norm = items :=
  (List.map_congr_left normal).trans (List.map_id' items)

instance {α : Type} [Wire α] [RoundTrips α] : RoundTrips (List α) where
  deserialize_serialize items := by
    rw [(normalisesTo_id α).list items, List.map_id]

instance {α : Type} [Wire α] : NeverNull (List α) := ⟨fun _ => Value.noConfusion⟩

instance {α : Type} [Wire α] : Wire (BTreeMap String α) where
  serialize map := .ofMap (map.mapValues serialize)
  deserialize
    | .object entries =>
        (entries.mapM fun entry => (deserialize entry.2).map fun x => (entry.1, x)).map
          BTreeMap.ofEntries
    | _ => none

instance {α : Type} [Wire α] [RoundTrips α] : RoundTrips (BTreeMap String α) where
  deserialize_serialize map := by
    have read : ∀ entries : List (String × α),
        ((entries.map fun entry => (entry.1, serialize entry.2)).mapM fun entry =>
          (deserialize (α := α) entry.2).map fun x => (entry.1, x)) = some entries := by
      intro entries
      induction entries with
      | nil => rfl
      | cons first rest ih =>
          rw [List.map_cons, List.mapM_cons, deserialize_serialize, ih]
          rfl
    change Option.map _ (List.mapM _ (List.map _ map.entries)) = _
    rw [read, Option.map_some, BTreeMap.ofEntries_entries]

instance {α : Type} [Wire α] : NeverNull (BTreeMap String α) := ⟨fun _ => Value.noConfusion⟩

end Serde
