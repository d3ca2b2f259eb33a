import McpgOperatorApi.Revocation.Hashes

namespace McpgOperatorApi

open Collections Text

/-!
# Lists of revocations compared and merged

The set of hashes stands for a list of revocations when digests are looked up:
two lists have the same set exactly when they revoke the same digests.  The
set of two lists together is the union, and the sizes count each class of
spellings once, which is what the detection of duplicates relies on.
-/

namespace MCPGRevocationListSpec

variable {τ : Type} (spec other : MCPGRevocationListSpec τ)

/-- Some entry has the digest, ignoring ASCII case. -/
def Revokes (digest : String) : Prop :=
  ∃ e ∈ spec.revocations, EqIgnoreAsciiCase e.artifactSha256 digest

/-- The list with the revocations of another one behind its own. -/
def merged : MCPGRevocationListSpec τ :=
  { spec with revocations := spec.revocations ++ other.revocations }

/-- A digest is revoked when its lowercase form is in the set. -/
theorem revokes_iff (digest : String) :
    spec.Revokes digest ↔ toAsciiLowercase digest ∈ spec.uniqueHashes := by
  rw [Revokes, mem_uniqueHashes_iff]
  simp only [eqIgnoreAsciiCase_iff]

/-- The elements of the set are the revoked digests in lower case. -/
theorem mem_uniqueHashes_iff_revokes (digest : String) :
    digest ∈ spec.uniqueHashes ↔ spec.Revokes digest ∧ toAsciiLowercase digest = digest := by
  rw [revokes_iff]
  constructor
  · intro listed
    rcases (mem_uniqueHashes_iff _ _).mp listed with ⟨e, there, rfl⟩
    rw [toAsciiLowercase_idem]
    exact ⟨listed, rfl⟩
  · intro ⟨listed, lower⟩
    rwa [lower] at listed

theorem mem_uniqueHashes_merged (digest : String) :
    digest ∈ (spec.merged other).uniqueHashes ↔
      digest ∈ spec.uniqueHashes ∨ digest ∈ other.uniqueHashes := by
  simp only [mem_uniqueHashes_iff, merged, List.mem_append, or_and_right, exists_or]

/-- Merging counts the classes of both lists, less those that they share. -/
theorem size_merged :
    (spec.merged other).uniqueHashes.size +
        (spec.uniqueHashes.elems.filter (· ∈ other.uniqueHashes)).length =
      spec.uniqueHashes.size + other.uniqueHashes.size := by
  have union : (spec.merged other).uniqueHashes.elems.toFinset =
      spec.uniqueHashes.elems.toFinset ∪ other.uniqueHashes.elems.toFinset := by
    ext digest
    rw [Finset.mem_union, List.mem_toFinset, List.mem_toFinset, List.mem_toFinset]
    exact mem_uniqueHashes_merged spec other digest
  have shared : (spec.uniqueHashes.elems.filter (· ∈ other.uniqueHashes)).length =
      (spec.uniqueHashes.elems.toFinset ∩ other.uniqueHashes.elems.toFinset).card := by
    rw [← List.toFinset_card_of_nodup (spec.uniqueHashes.elems_nodup.filter _)]
    apply congrArg Finset.card
    ext digest
    rw [List.mem_toFinset, List.mem_filter, decide_eq_true_iff, Finset.mem_inter, List.mem_toFinset,
      List.mem_toFinset, BTreeSet.mem_def]
  rw [BTreeSet.size_eq_card, BTreeSet.size_eq_card, BTreeSet.size_eq_card, union, shared]
  exact Finset.card_union_add_card_inter _ _

/-- What the set of hashes says about lookups in one list and in two. -/
structure LookupLaws : Prop where
  /-- A lookup that does not lowercase the digest misses other spellings. -/
  raw : ∀ digest, digest ∈ spec.uniqueHashes ↔
    spec.Revokes digest ∧ toAsciiLowercase digest = digest
  /-- Equal sets revoke the same digests, and only equal sets do. -/
  abstraction : spec.uniqueHashes = other.uniqueHashes ↔
    ∀ digest, spec.Revokes digest ↔ other.Revokes digest
  /-- Nothing is lost by merging, and nothing else is revoked. -/
  union : ∀ digest, (spec.merged other).Revokes digest ↔ spec.Revokes digest ∨ other.Revokes digest
  /-- The order of merging does not matter. -/
  comm : (spec.merged other).uniqueHashes = (other.merged spec).uniqueHashes
  /-- Each class of spellings is counted once. -/
  size : (spec.merged other).uniqueHashes.size +
      (spec.uniqueHashes.elems.filter (· ∈ other.uniqueHashes)).length =
    spec.uniqueHashes.size + other.uniqueHashes.size
  /-- Merging adds no element exactly when everything was revoked before. -/
  absorbs : (spec.merged other).uniqueHashes = spec.uniqueHashes ↔
    ∀ e ∈ other.revocations, spec.Revokes e.artifactSha256

theorem lookupLaws : spec.LookupLaws other where
  raw := spec.mem_uniqueHashes_iff_revokes
  abstraction := by
    constructor
    · intro same digest
      rw [revokes_iff, revokes_iff, same]
    · intro agree
      apply BTreeSet.eq_of_mem_iff
      intro digest
      rw [mem_uniqueHashes_iff_revokes, mem_uniqueHashes_iff_revokes, agree]
  union digest := by
    simp only [revokes_iff, mem_uniqueHashes_merged]
  comm := by
    apply BTreeSet.eq_of_mem_iff
    intro digest
    rw [mem_uniqueHashes_merged, mem_uniqueHashes_merged, or_comm]
  size := spec.size_merged other
  absorbs := by
    constructor
    · intro same e listed
      rw [revokes_iff, ← same, mem_uniqueHashes_merged]
      exact Or.inr ((mem_uniqueHashes_iff _ _).mpr ⟨e, listed, rfl⟩)
    · intro known
      apply BTreeSet.eq_of_mem_iff
      intro digest
      rw [mem_uniqueHashes_merged, or_iff_left_iff_imp]
      intro listed
      rcases (mem_uniqueHashes_iff _ _).mp listed with ⟨e, there, rfl⟩
      exact (revokes_iff _ _).mp (known e there)

end MCPGRevocationListSpec

end McpgOperatorApi
