import McpgOperatorApi.V1alpha1.RevocationList

namespace McpgOperatorApi

open Collections Text

/-!
# The set of revoked hashes

Hashes are compared ignoring ASCII case.  Lowercasing picks one spelling of
each class, so the set of lowercased hashes has one element for each class of
entries.  Nothing is assumed about the hashes: they may be any texts.
-/

namespace MCPGRevocationListSpec

variable {τ : Type} (spec : MCPGRevocationListSpec τ)

/-- The hash of the entry at a position. -/
def hashAt (i : Fin spec.revocations.length) : String :=
  spec.revocations[i].artifactSha256

/-- Positions whose entries have the same hash, ignoring ASCII case. -/
def sameHash : Setoid (Fin spec.revocations.length) where
  r i j := EqIgnoreAsciiCase (spec.hashAt i) (spec.hashAt j)
  iseqv :=
    ⟨fun _ => eqIgnoreAsciiCase_equivalence.refl _, eqIgnoreAsciiCase_equivalence.symm,
      eqIgnoreAsciiCase_equivalence.trans⟩

/-- What the set of revoked hashes is. -/
structure HashesExact : Prop where
  /-- A hash is looked up in lower case. -/
  complete : ∀ d, toAsciiLowercase d ∈ spec.uniqueHashes ↔
    ∃ e ∈ spec.revocations, EqIgnoreAsciiCase e.artifactSha256 d
  /-- Every element is its own lowercase form. -/
  canonical : ∀ x ∈ spec.uniqueHashes, toAsciiLowercase x = x
  /-- There is one element for each class of entries. -/
  classes : spec.uniqueHashes.size = Nat.card (Quotient spec.sameHash)
  /-- The size detects duplicates. -/
  duplicates : spec.uniqueHashes.size = spec.revocations.length ↔
    ∀ i j, i ≠ j → ¬ EqIgnoreAsciiCase (spec.hashAt i) (spec.hashAt j)
  /-- The order of the entries does not matter. -/
  perm : ∀ other : MCPGRevocationListSpec τ, other.revocations.Perm spec.revocations →
    other.uniqueHashes = spec.uniqueHashes
  /-- The spelling of the hashes does not matter. -/
  recase : ∀ other : MCPGRevocationListSpec τ,
    List.Forall₂ (fun e f => EqIgnoreAsciiCase e.artifactSha256 f.artifactSha256)
      other.revocations spec.revocations → other.uniqueHashes = spec.uniqueHashes
  /-- Repeating an entry anywhere does not matter. -/
  repeated : ∀ (other : MCPGRevocationListSpec τ) (before after : List (RevocationEntry τ)) e,
    spec.revocations = before ++ after → e ∈ spec.revocations →
      other.revocations = before ++ e :: after → other.uniqueHashes = spec.uniqueHashes

theorem mem_uniqueHashes_iff (x : String) :
    x ∈ spec.uniqueHashes ↔ ∃ e ∈ spec.revocations, toAsciiLowercase e.artifactSha256 = x := by
  rw [uniqueHashes, BTreeSet.mem_ofList, List.mem_map]

/-- The set only depends on which lowercased hashes are listed. -/
theorem uniqueHashes_congr {spec other : MCPGRevocationListSpec τ}
    (members : ∀ e : RevocationEntry τ, e ∈ other.revocations ↔ e ∈ spec.revocations) :
    other.uniqueHashes = spec.uniqueHashes := by
  apply BTreeSet.ofList_congr
  intro x
  simp only [List.mem_map, members]

/-- Respelling does not change the list of lowercased hashes. -/
theorem uniqueHashes_of_recase {spec other : MCPGRevocationListSpec τ}
    (recased : List.Forall₂ (fun e f => EqIgnoreAsciiCase e.artifactSha256 f.artifactSha256)
      other.revocations spec.revocations) : other.uniqueHashes = spec.uniqueHashes := by
  have same : other.revocations.map (fun e => toAsciiLowercase e.artifactSha256) =
      spec.revocations.map fun e => toAsciiLowercase e.artifactSha256 := by
    rw [← List.forall₂_eq_eq_eq, List.forall₂_map_left_iff, List.forall₂_map_right_iff]
    exact recased.imp (fun e f related => (eqIgnoreAsciiCase_iff _ _).mp related)
  rw [uniqueHashes, uniqueHashes, same]

/-- The classes of positions correspond to the elements of the set. -/
theorem size_uniqueHashes : spec.uniqueHashes.size = Nat.card (Quotient spec.sameHash) := by
  have kernel : spec.sameHash = Setoid.ker fun i => toAsciiLowercase (spec.hashAt i) :=
    Setoid.ext fun i j => eqIgnoreAsciiCase_iff _ _
  have elements : Set.range (fun i => toAsciiLowercase (spec.hashAt i)) =
      (spec.uniqueHashes.elems.toFinset : Set String) := by
    ext x
    rw [Finset.mem_coe, List.mem_toFinset, ← BTreeSet.mem_def, mem_uniqueHashes_iff]
    constructor
    · rintro ⟨i, rfl⟩
      exact ⟨_, List.getElem_mem i.isLt, rfl⟩
    · rintro ⟨e, listed, rfl⟩
      rcases List.getElem_of_mem listed with ⟨i, inside, rfl⟩
      exact ⟨⟨i, inside⟩, rfl⟩
  rw [kernel, Nat.card_congr (Setoid.quotientKerEquivRange _), elements, Nat.card_coe_set_eq,
    Set.ncard_coe_finset, List.toFinset_card_of_nodup spec.uniqueHashes.elems_nodup]
  rfl

/-- As many elements as entries means that no two entries agree. -/
theorem size_uniqueHashes_eq_length_iff :
    spec.uniqueHashes.size = spec.revocations.length ↔
      ∀ i j, i ≠ j → ¬ EqIgnoreAsciiCase (spec.hashAt i) (spec.hashAt j) := by
  have listed := BTreeSet.size_ofList_eq_length_iff
    (spec.revocations.map fun e => toAsciiLowercase e.artifactSha256)
  rw [List.length_map] at listed
  rw [uniqueHashes, listed, List.Nodup, List.pairwise_map, List.pairwise_iff_getElem]
  simp only [eqIgnoreAsciiCase_iff]
  constructor
  · intro distinct i j apart
    rcases Nat.lt_or_gt_of_ne (fun same => apart (Fin.ext same)) with before | after
    · exact distinct i j i.isLt j.isLt before
    · exact fun same => distinct j i j.isLt i.isLt after same.symm
  · intro distinct i j iInside jInside before
    apply distinct ⟨i, iInside⟩ ⟨j, jInside⟩
    intro same
    exact Nat.ne_of_lt before (congrArg Fin.val same)

/-- The revocation set is complete, and its size detects duplicates. -/
theorem hashesExact : spec.HashesExact where
  complete d := by
    rw [mem_uniqueHashes_iff]
    simp only [eqIgnoreAsciiCase_iff]
  canonical x listed := by
    rcases (mem_uniqueHashes_iff _ _).mp listed with ⟨e, -, rfl⟩
    exact toAsciiLowercase_idem _
  classes := spec.size_uniqueHashes
  duplicates := spec.size_uniqueHashes_eq_length_iff
  perm other permuted := uniqueHashes_congr (fun _ => permuted.mem_iff)
  recase other recased := uniqueHashes_of_recase recased
  repeated other before after e split listed inserted := by
    apply uniqueHashes_congr
    intro f
    rw [inserted, List.mem_append, List.mem_cons]
    rw [split, List.mem_append] at listed
    rw [split, List.mem_append]
    constructor
    · rintro (early | rfl | late)
      · exact Or.inl early
      · exact listed
      · exact Or.inr late
    · rintro (early | late)
      · exact Or.inl early
      · exact Or.inr (Or.inr late)

end MCPGRevocationListSpec

end McpgOperatorApi
