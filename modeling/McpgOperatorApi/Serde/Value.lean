import Mathlib.Data.String.Basic
import Mathlib.Algebra.Group.Int.Defs
import McpgOperatorApi.Collections.BTreeMap

namespace Serde

open Collections

/-!
# JSON trees

A number is an integer in the joint range of the signed and the unsigned
64-bit type, or a float kept as its bit pattern.  The range is a field of the
number, so an integer that neither type can hold is not a number.

An object is the list of its entries.  The objects a program builds come out
of an ordered map and list their keys in increasing order; lookups do not
depend on that.
-/

/-- A JSON number. -/
inductive Number where
  | integer (value : Int) (bounded : -2 ^ 63 ≤ value ∧ value < 2 ^ 64)
  | float (bits : UInt64)

/-- A JSON tree. -/
inductive Value where
  | null
  | bool (value : Bool)
  | number (value : Number)
  | string (value : String)
  | array (items : List Value)
  | object (entries : List (String × Value))

namespace Value

instance : Inhabited Value := ⟨.null⟩

/-- The object with the entries of a map. -/
def ofMap (map : BTreeMap String Value) : Value :=
  .object map.entries

/-- The object with the given entries; a later entry wins. -/
def ofEntries (entries : List (String × Value)) : Value :=
  ofMap (.ofEntries entries)

/-- The value of a key, when the tree is an object that has it. -/
def get? : Value → String → Option Value
  | .object entries, key => entries.lookup key
  | _, _ => none

/-- The Boolean, when the tree is one. -/
def asBool : Value → Option Bool
  | .bool value => some value
  | _ => none

/-- The text, when the tree is a string. -/
def asStr : Value → Option String
  | .string value => some value
  | _ => none

@[simp] theorem get?_ofMap (map : BTreeMap String Value) (key : String) :
    (ofMap map).get? key = map.get? key := rfl

theorem asBool_eq_some_iff (value : Value) (b : Bool) : value.asBool = some b ↔ value = .bool b := by
  cases value <;> simp [asBool]

theorem asStr_eq_some_iff (value : Value) (s : String) : value.asStr = some s ↔ value = .string s := by
  cases value <;> simp [asStr]

/-- The entries whose key is not one of `dropped`. -/
def without (dropped : List String) (entries : List (String × Value)) : List (String × Value) :=
  entries.filter (fun entry => entry.1 ∉ dropped)

theorem lookup_without (dropped : List String) (entries : List (String × Value)) (key : String) :
    (without dropped entries).lookup key =
      if key ∈ dropped then none else entries.lookup key := by
  induction entries with
  | nil => simp [without]
  | cons entry rest ih =>
      rcases entry with ⟨other, value⟩
      by_cases gone : other ∈ dropped
      · rw [without, List.filter_cons_of_neg (by simpa using gone)]
        change (without dropped rest).lookup key = _
        rw [ih, List.lookup_cons]
        by_cases same : key = other
        · rw [same, if_pos gone, if_pos gone]
        · rw [beq_eq_false_iff_ne.mpr same]
      · rw [without, List.filter_cons_of_pos (by simpa using gone), List.lookup_cons,
          List.lookup_cons]
        by_cases same : key = other
        · rw [same, if_neg gone, beq_self_eq_true]
        · rw [beq_eq_false_iff_ne.mpr same]
          exact ih

end Value

end Serde
