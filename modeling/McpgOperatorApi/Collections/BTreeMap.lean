import McpgOperatorApi.Collections.Ordered

namespace Collections

universe u v

variable {κ : Type u} {α : Type v} [LinearOrder κ]

/-!
# Ordered maps and sets

An ordered map is the list of its entries in strictly increasing key order.
The order is part of the value, so two maps with the same lookups are equal
and no well-formedness premise travels with a map.

Insertion replaces the value of a key that is already present.  Building a
map from a list of entries inserts them from left to right, so a later entry
wins over an earlier one with the same key.
-/

/-- Entries in strictly increasing key order. -/
def KeysIncreasing (entries : List (κ × α)) : Prop :=
  (entries.map Prod.fst).Pairwise (· < ·)

/-- Insert into a list of entries in key order, replacing the value of an
equal key. -/
def insertEntry (key : κ) (value : α) : List (κ × α) → List (κ × α)
  | [] => [(key, value)]
  | (other, old) :: rest =>
      if key < other then (key, value) :: (other, old) :: rest
      else if key = other then (key, value) :: rest
      else (other, old) :: insertEntry key value rest

theorem mem_keys_insertEntry {key k : κ} {value : α} {entries : List (κ × α)}
    (member : k ∈ (insertEntry key value entries).map Prod.fst) :
    k = key ∨ k ∈ entries.map Prod.fst := by
  induction entries with
  | nil => simpa [insertEntry] using member
  | cons entry rest ih =>
      rcases entry with ⟨other, old⟩
      rw [insertEntry] at member
      split_ifs at member with before same
      · simpa using member
      · rw [List.map_cons, List.mem_cons] at member
        exact member.imp id (fun later => List.mem_cons_of_mem _ later)
      · rw [List.map_cons, List.mem_cons] at member
        rcases member with first | later
        · exact Or.inr (first ▸ List.mem_cons_self)
        · exact (ih later).imp id (fun there => List.mem_cons_of_mem _ there)

theorem keysIncreasing_insertEntry (key : κ) (value : α) {entries : List (κ × α)}
    (increasing : KeysIncreasing entries) : KeysIncreasing (insertEntry key value entries) := by
  induction entries with
  | nil => exact List.pairwise_singleton _ _
  | cons entry rest ih =>
      rcases entry with ⟨other, old⟩
      rcases List.pairwise_cons.mp increasing with ⟨smallest, restIncreasing⟩
      rw [insertEntry]
      split_ifs with before same
      · refine List.pairwise_cons.mpr ⟨?_, increasing⟩
        intro k member
        rcases List.mem_cons.mp member with first | later
        · exact first ▸ before
        · exact before.trans (smallest k later)
      · subst same
        exact increasing
      · refine List.pairwise_cons.mpr ⟨?_, ih restIncreasing⟩
        intro k member
        rcases mem_keys_insertEntry member with inserted | there
        · exact inserted ▸ lt_of_le_of_ne (not_lt.mp before) (Ne.symm same)
        · exact smallest k there

theorem lookup_insertEntry_self (key : κ) (value : α) (entries : List (κ × α)) :
    (insertEntry key value entries).lookup key = some value := by
  induction entries with
  | nil => simp [insertEntry]
  | cons entry rest ih =>
      rcases entry with ⟨other, old⟩
      rw [insertEntry]
      split_ifs with before same
      · simp
      · simp
      · rw [List.lookup_cons, beq_eq_false_iff_ne.mpr same]
        exact ih

theorem lookup_insertEntry_of_ne {key k : κ} (different : k ≠ key) (value : α)
    (entries : List (κ × α)) :
    (insertEntry key value entries).lookup k = entries.lookup k := by
  induction entries with
  | nil => simp [insertEntry, different]
  | cons entry rest ih =>
      rcases entry with ⟨other, old⟩
      rw [insertEntry]
      split_ifs with before same
      · rw [List.lookup_cons, beq_eq_false_iff_ne.mpr different]
      · subst same
        rw [List.lookup_cons, List.lookup_cons, beq_eq_false_iff_ne.mpr different]
      · rw [List.lookup_cons, List.lookup_cons, ih]

theorem mem_of_lookup {key : κ} {value : α} {entries : List (κ × α)}
    (found : entries.lookup key = some value) : (key, value) ∈ entries := by
  induction entries with
  | nil => cases found
  | cons entry rest ih =>
      rcases entry with ⟨other, old⟩
      by_cases same : key = other
      · subst same
        rw [List.lookup_cons, beq_self_eq_true] at found
        rw [← Option.some.inj found]
        exact List.mem_cons_self
      · rw [List.lookup_cons, beq_eq_false_iff_ne.mpr same] at found
        exact List.mem_cons_of_mem _ (ih found)

theorem key_mem_of_lookup {key : κ} {value : α} {entries : List (κ × α)}
    (found : entries.lookup key = some value) : key ∈ entries.map Prod.fst :=
  List.mem_map.mpr ⟨(key, value), mem_of_lookup found, rfl⟩

theorem lookup_of_mem {key : κ} {value : α} {entries : List (κ × α)}
    (increasing : KeysIncreasing entries) (member : (key, value) ∈ entries) :
    entries.lookup key = some value := by
  induction entries with
  | nil => cases member
  | cons entry rest ih =>
      rcases entry with ⟨other, old⟩
      rcases List.pairwise_cons.mp increasing with ⟨smallest, restIncreasing⟩
      rcases List.mem_cons.mp member with first | later
      · rw [← first, List.lookup_cons, beq_self_eq_true]
      · have less : other < key := smallest key (List.mem_map.mpr ⟨_, later, rfl⟩)
        rw [List.lookup_cons, beq_eq_false_iff_ne.mpr (ne_of_gt less)]
        exact ih restIncreasing later

/-- Entry lists in key order are determined by their lookups. -/
theorem entries_ext {left right : List (κ × α)} (leftIncreasing : KeysIncreasing left)
    (rightIncreasing : KeysIncreasing right)
    (lookups : ∀ k, left.lookup k = right.lookup k) : left = right := by
  have leftPairs : left.Pairwise (fun a b => a.1 < b.1) := List.pairwise_map.mp leftIncreasing
  have rightPairs : right.Pairwise (fun a b => a.1 < b.1) := List.pairwise_map.mp rightIncreasing
  have distinct : ∀ {a b : κ × α}, a.1 < b.1 → a ≠ b := fun less equal =>
    absurd less (equal ▸ lt_irrefl _)
  have permutation : left.Perm right := by
    apply (List.perm_ext_iff_of_nodup (leftPairs.imp distinct) (rightPairs.imp distinct)).mpr
    rintro ⟨key, value⟩
    constructor
    · intro member
      exact mem_of_lookup ((lookups key).symm.trans (lookup_of_mem leftIncreasing member))
    · intro member
      exact mem_of_lookup ((lookups key).trans (lookup_of_mem rightIncreasing member))
  exact permutation.eq_of_pairwise
    (fun a b _ _ before after => absurd before (lt_asymm after)) leftPairs rightPairs

/-- A map whose entries are kept in key order. -/
structure BTreeMap (κ : Type u) (α : Type v) [LinearOrder κ] where
  entries : List (κ × α)
  increasing : KeysIncreasing entries

namespace BTreeMap

/-- The map without entries. -/
def empty : BTreeMap κ α := ⟨[], List.Pairwise.nil⟩

instance : Inhabited (BTreeMap κ α) := ⟨empty⟩

/-- Set the value of a key. -/
def insert (map : BTreeMap κ α) (key : κ) (value : α) : BTreeMap κ α :=
  ⟨insertEntry key value map.entries, keysIncreasing_insertEntry key value map.increasing⟩

/-- The value of a key, if it has one. -/
def get? (map : BTreeMap κ α) (key : κ) : Option α :=
  map.entries.lookup key

/-- The keys in increasing order. -/
def keys (map : BTreeMap κ α) : List κ :=
  map.entries.map Prod.fst

def isEmpty (map : BTreeMap κ α) : Bool :=
  map.entries.isEmpty

/-- Insert the given entries one after the other. -/
def insertAll (map : BTreeMap κ α) (entries : List (κ × α)) : BTreeMap κ α :=
  entries.foldl (fun acc entry => acc.insert entry.1 entry.2) map

/-- Collect entries into a map; a later entry wins. -/
def ofEntries (entries : List (κ × α)) : BTreeMap κ α :=
  empty.insertAll entries

theorem eq_of_entries {left right : BTreeMap κ α} (equal : left.entries = right.entries) :
    left = right := by
  cases left
  cases right
  cases equal
  rfl

@[ext] theorem ext {left right : BTreeMap κ α} (lookups : ∀ k, left.get? k = right.get? k) :
    left = right :=
  eq_of_entries (entries_ext left.increasing right.increasing lookups)

@[simp] theorem get?_empty (key : κ) : (empty : BTreeMap κ α).get? key = none := rfl

theorem get?_insert (map : BTreeMap κ α) (key k : κ) (value : α) :
    (map.insert key value).get? k = if k = key then some value else map.get? k := by
  by_cases same : k = key
  · subst same
    rw [if_pos rfl]
    exact lookup_insertEntry_self k value map.entries
  · rw [if_neg same]
    exact lookup_insertEntry_of_ne same value map.entries

@[simp] theorem get?_insert_self (map : BTreeMap κ α) (key : κ) (value : α) :
    (map.insert key value).get? key = some value :=
  lookup_insertEntry_self key value map.entries

theorem get?_insert_of_ne (map : BTreeMap κ α) {key k : κ} (different : k ≠ key) (value : α) :
    (map.insert key value).get? k = map.get? k :=
  lookup_insertEntry_of_ne different value map.entries

/-- The keys are those with a value. -/
theorem mem_keys_iff (map : BTreeMap κ α) (k : κ) :
    k ∈ map.keys ↔ ∃ value, map.get? k = some value := by
  constructor
  · intro member
    rcases List.mem_map.mp member with ⟨⟨key, value⟩, listed, rfl⟩
    exact ⟨value, lookup_of_mem map.increasing listed⟩
  · rintro ⟨value, found⟩
    exact key_mem_of_lookup found

theorem eq_empty_of_isEmpty {map : BTreeMap κ α} (vacant : map.isEmpty = true) : map = empty :=
  eq_of_entries (List.isEmpty_iff.mp vacant)

/-- Inserting all entries of a map overrides exactly its keys. -/
theorem get?_insertAll_of_increasing {entries : List (κ × α)} (increasing : KeysIncreasing entries)
    (map : BTreeMap κ α) (k : κ) :
    (map.insertAll entries).get? k = (entries.lookup k).or (map.get? k) := by
  induction entries generalizing map with
  | nil => rfl
  | cons entry rest ih =>
      rcases entry with ⟨key, value⟩
      rcases List.pairwise_cons.mp increasing with ⟨smallest, restIncreasing⟩
      rw [insertAll, List.foldl_cons]
      change ((map.insert key value).insertAll rest).get? k = _
      rw [ih restIncreasing, get?_insert, List.lookup_cons]
      by_cases same : k = key
      · subst same
        have absent : rest.lookup k = none := by
          cases found : rest.lookup k with
          | none => rfl
          | some old => exact absurd (smallest k (key_mem_of_lookup found)) (lt_irrefl k)
        rw [absent, if_pos rfl, beq_self_eq_true]
        rfl
      · rw [if_neg same, beq_eq_false_iff_ne.mpr same]

/-- Overriding a map with all entries of another. -/
theorem get?_insertAll (map other : BTreeMap κ α) (k : κ) :
    (map.insertAll other.entries).get? k = (other.get? k).or (map.get? k) :=
  get?_insertAll_of_increasing other.increasing map k

/-- Collecting the entries of a map gives the map back. -/
@[simp] theorem ofEntries_entries (map : BTreeMap κ α) : ofEntries map.entries = map := by
  ext k : 1
  rw [ofEntries, get?_insertAll, get?_empty, Option.or_none]

/-- Remove a key. -/
def erase (map : BTreeMap κ α) (key : κ) : BTreeMap κ α where
  entries := map.entries.filter (fun entry => entry.1 ≠ key)
  increasing := map.increasing.sublist (List.filter_sublist.map Prod.fst)

/-- Removing a key leaves the others alone. -/
@[simp] theorem get?_erase (map : BTreeMap κ α) (key k : κ) :
    (map.erase key).get? k = if k = key then none else map.get? k := by
  change (map.entries.filter _).lookup k = if k = key then none else map.entries.lookup k
  induction map.entries with
  | nil => simp
  | cons entry rest ih =>
      rcases entry with ⟨other, value⟩
      by_cases gone : other = key
      · rw [List.filter_cons_of_neg (by simpa using gone), ih, List.lookup_cons]
        by_cases same : k = key
        · rw [if_pos same, if_pos same]
        · rw [if_neg same, if_neg same, beq_eq_false_iff_ne.mpr (gone ▸ same)]
      · rw [List.filter_cons_of_pos (by simpa using gone), List.lookup_cons, List.lookup_cons, ih]
        by_cases here : k = other
        · subst here
          simp only [beq_self_eq_true, if_neg gone]
        · rw [beq_eq_false_iff_ne.mpr here]

/-- The values of a map, transformed one by one. -/
def mapValues {β : Type*} (f : α → β) (map : BTreeMap κ α) : BTreeMap κ β where
  entries := map.entries.map (fun entry => (entry.1, f entry.2))
  increasing := by
    have same : (map.entries.map (fun entry => (entry.1, f entry.2))).map Prod.fst =
        map.entries.map Prod.fst := by
      rw [List.map_map]
      rfl
    rw [KeysIncreasing, same]
    exact map.increasing

end BTreeMap

/-! ## Sets -/

/-- A set of keys: a map that only remembers which keys it has. -/
structure BTreeSet (κ : Type u) [LinearOrder κ] where
  map : BTreeMap κ Unit

namespace BTreeSet

/-- Collect a list of elements into a set. -/
def ofList (elems : List κ) : BTreeSet κ :=
  ⟨BTreeMap.ofEntries (elems.map (fun x => (x, ())))⟩

/-- The elements in increasing order. -/
def elems (set : BTreeSet κ) : List κ :=
  set.map.keys

/-- The number of elements. -/
def size (set : BTreeSet κ) : Nat :=
  set.elems.length

instance : Membership κ (BTreeSet κ) := ⟨fun set x => x ∈ set.elems⟩

instance (x : κ) (set : BTreeSet κ) : Decidable (x ∈ set) :=
  inferInstanceAs (Decidable (x ∈ set.elems))

theorem mem_def (x : κ) (set : BTreeSet κ) : x ∈ set ↔ x ∈ set.elems := Iff.rfl

theorem elems_increasing (set : BTreeSet κ) : set.elems.Pairwise (· < ·) :=
  set.map.increasing

theorem elems_nodup (set : BTreeSet κ) : set.elems.Nodup :=
  set.elems_increasing.imp ne_of_lt

/-- The size of a set is the number of its elements. -/
theorem size_eq_card (set : BTreeSet κ) : set.size = set.elems.toFinset.card :=
  (List.toFinset_card_of_nodup set.elems_nodup).symm

/-- Sets with the same members are equal. -/
theorem eq_of_mem_iff {left right : BTreeSet κ} (members : ∀ x, x ∈ left ↔ x ∈ right) :
    left = right := by
  have keys : left.elems = right.elems :=
    Collections.eq_of_mem_iff left.elems_increasing right.elems_increasing members
  rcases left with ⟨⟨leftEntries, _⟩⟩
  rcases right with ⟨⟨rightEntries, _⟩⟩
  have entries : leftEntries = rightEntries :=
    List.map_injective_iff.mpr (fun a b same => Prod.ext same rfl) keys
  cases entries
  rfl

private theorem mem_keys_insertAll (x : κ) (elems : List κ) (map : BTreeMap κ Unit) :
    x ∈ (map.insertAll (elems.map (fun y => (y, ())))).keys ↔ x ∈ elems ∨ x ∈ map.keys := by
  induction elems generalizing map with
  | nil => simp [BTreeMap.insertAll]
  | cons first rest ih =>
      change x ∈ ((map.insert first ()).insertAll (rest.map (fun y => (y, ())))).keys ↔ _
      rw [ih, List.mem_cons]
      have inserted : x ∈ (map.insert first ()).keys ↔ x = first ∨ x ∈ map.keys := by
        rw [BTreeMap.mem_keys_iff, BTreeMap.mem_keys_iff, BTreeMap.get?_insert]
        by_cases same : x = first
        · simp [same]
        · simp [same]
      rw [inserted, or_assoc, or_left_comm]

/-- A collected set has exactly the collected elements. -/
@[simp] theorem mem_ofList (x : κ) (elems : List κ) : x ∈ ofList elems ↔ x ∈ elems := by
  rw [mem_def, BTreeSet.elems, ofList, BTreeMap.ofEntries, mem_keys_insertAll]
  simp [BTreeMap.keys, BTreeMap.empty]

/-- Collecting loses order and repetition, and nothing else. -/
theorem ofList_congr {left right : List κ} (members : ∀ x, x ∈ left ↔ x ∈ right) :
    ofList left = ofList right := by
  apply eq_of_mem_iff
  intro x
  rw [mem_ofList, mem_ofList, members]

/-- The collected elements are those of the list, each once. -/
theorem elems_ofList_perm_dedup (elems : List κ) : (ofList elems).elems.Perm elems.dedup := by
  apply (List.perm_ext_iff_of_nodup (elems_nodup _) (List.nodup_dedup _)).mpr
  intro x
  rw [← mem_def, mem_ofList, List.mem_dedup]

/-- A collected set is as large as the list exactly when the list has no
duplicates. -/
theorem size_ofList_eq_length_iff (elems : List κ) :
    (ofList elems).size = elems.length ↔ elems.Nodup := by
  rw [size, (elems_ofList_perm_dedup elems).length_eq]
  constructor
  · intro lengths
    have whole := (List.dedup_sublist elems).eq_of_length lengths
    rw [← whole]
    exact List.nodup_dedup elems
  · intro distinct
    rw [List.dedup_eq_self.mpr distinct]

end BTreeSet

end Collections
