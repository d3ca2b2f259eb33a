import McpgOperatorApi.V1alpha1.Tenant
import McpgOperatorApi.Text.Utf8

namespace McpgOperatorApi

open Collections

/-!
# Exclusive ownership of namespaces

The overlap of two tenants is computed by filtering the list of one of them
and tidying the result.  It nevertheless depends on the two sets of owned
namespaces alone, and on both in the same way.  This is what makes it enough
to test a newcomer against each earlier tenant once, in either direction.
-/

namespace MCPGTenantSpec

/-- What the overlap of two tenants is: the common namespaces, once each, in
bytewise order. -/
structure OverlapExact (a b : MCPGTenantSpec) : Prop where
  increasing : (a.overlappingNamespaces b).Pairwise (fun m n => Text.bytes m < Text.bytes n)
  common : ∀ n, n ∈ a.overlappingNamespaces b ↔ a.ownsNamespace n = true ∧ b.ownsNamespace n = true
  symmetric : a.overlappingNamespaces b = b.overlappingNamespaces a

/-- Each newcomer was tested against each earlier tenant, in one of the two
directions, and no overlap was found. -/
def AdmittedInTurn (tenants : List MCPGTenantSpec) : Prop :=
  tenants.Pairwise fun earlier newcomer =>
    newcomer.overlappingNamespaces earlier = [] ∨ earlier.overlappingNamespaces newcomer = []

/-- No namespace is owned by tenants at two positions. -/
def Exclusive (tenants : List MCPGTenantSpec) : Prop :=
  ∀ (i j : Nat) (a b : MCPGTenantSpec) (n : String), tenants[i]? = some a → tenants[j]? = some b →
    a.ownsNamespace n = true → b.ownsNamespace n = true → i = j

theorem ownsNamespace_iff (spec : MCPGTenantSpec) (n : String) :
    spec.ownsNamespace n = true ↔ n ∈ spec.namespaces := by
  simp [ownsNamespace]

/-- Filtering one list by membership in the other leaves the common
namespaces. -/
theorem mem_owned_iff (a b : MCPGTenantSpec) (n : String) :
    n ∈ a.namespaces.filter (fun m => b.namespaces.any (fun o => o == m)) ↔
      a.ownsNamespace n = true ∧ b.ownsNamespace n = true := by
  rw [List.mem_filter, ← ownsNamespace_iff]
  rfl

theorem mem_overlappingNamespaces_iff (a b : MCPGTenantSpec) (n : String) :
    n ∈ a.overlappingNamespaces b ↔ a.ownsNamespace n = true ∧ b.ownsNamespace n = true := by
  rw [overlappingNamespaces, mem_sortDedup]
  exact mem_owned_iff a b n

theorem overlappingNamespaces_comm (a b : MCPGTenantSpec) :
    a.overlappingNamespaces b = b.overlappingNamespaces a := by
  unfold overlappingNamespaces
  apply sortDedup_congr
  intro n
  rw [mem_owned_iff, mem_owned_iff, and_comm]

theorem overlapExact (a b : MCPGTenantSpec) : OverlapExact a b where
  increasing := (sortDedup_increasing _).imp (fun before => (Text.bytes_lt_iff _ _).mpr before)
  common := mem_overlappingNamespaces_iff a b
  symmetric := overlappingNamespaces_comm a b

/-- Tenants without overlap share no namespace. -/
theorem disjoint_of_overlap_eq_nil {a b : MCPGTenantSpec} {n : String}
    (tested : a.overlappingNamespaces b = [] ∨ b.overlappingNamespaces a = [])
    (ownedByA : a.ownsNamespace n = true) : b.ownsNamespace n = false := by
  have vacant : a.overlappingNamespaces b = [] :=
    tested.elim id (fun reverse => (overlappingNamespaces_comm a b).trans reverse)
  rw [Bool.eq_false_iff]
  intro ownedByB
  have member := (mem_overlappingNamespaces_iff a b n).mpr ⟨ownedByA, ownedByB⟩
  rw [vacant] at member
  cases member

/-- An admitted tenant does not disturb exclusive ownership. -/
theorem exclusive_cons {first : MCPGTenantSpec} {rest : List MCPGTenantSpec}
    (tested : ∀ other ∈ rest,
      other.overlappingNamespaces first = [] ∨ first.overlappingNamespaces other = [])
    (exclusive : Exclusive rest) : Exclusive (first :: rest) := by
  have clear : ∀ (k : Nat) (other : MCPGTenantSpec) (n : String), rest[k]? = some other →
      first.ownsNamespace n = true → other.ownsNamespace n = true → False := by
    intro k other n there ownedByFirst ownedByOther
    have free := disjoint_of_overlap_eq_nil (tested other (List.mem_of_getElem? there)).symm
      ownedByFirst
    rw [ownedByOther] at free
    cases free
  intro i j a b n atI atJ ownedByA ownedByB
  cases i with
  | zero =>
      cases j with
      | zero => rfl
      | succ j =>
          rw [List.getElem?_cons_zero, Option.some.injEq] at atI
          exact (clear j b n atJ (atI ▸ ownedByA) ownedByB).elim
  | succ i =>
      cases j with
      | zero =>
          rw [List.getElem?_cons_zero, Option.some.injEq] at atJ
          exact (clear i a n atI (atJ ▸ ownedByB) ownedByA).elim
      | succ j => exact congrArg Nat.succ (exclusive i j a b n atI atJ ownedByA ownedByB)

/-- Admission in turn leads to exclusive ownership. -/
theorem exclusive_of_admittedInTurn {tenants : List MCPGTenantSpec}
    (admitted : AdmittedInTurn tenants) : Exclusive tenants := by
  induction tenants with
  | nil =>
      intro i j a b n atI
      cases atI
  | cons first rest ih =>
      rcases List.pairwise_cons.mp admitted with ⟨tested, restAdmitted⟩
      exact exclusive_cons tested (ih restAdmitted)

/-- Exclusivity is decided exactly: overlaps are what they should be, tests
without findings establish exclusive ownership, and a namespace owned by two
tenants of a sequence shows up in their overlap. -/
theorem namespace_exclusivity :
    (∀ a b : MCPGTenantSpec, OverlapExact a b) ∧
      (∀ tenants : List MCPGTenantSpec, AdmittedInTurn tenants → Exclusive tenants) ∧
      ∀ (tenants : List MCPGTenantSpec) (i j : Nat) (a b : MCPGTenantSpec) (n : String),
        i ≠ j → tenants[i]? = some a → tenants[j]? = some b → a.ownsNamespace n = true →
          b.ownsNamespace n = true →
            n ∈ a.overlappingNamespaces b ∧ ¬ AdmittedInTurn tenants := by
  refine ⟨overlapExact, fun _ => exclusive_of_admittedInTurn, ?_⟩
  intro tenants i j a b n apart atI atJ ownedByA ownedByB
  refine ⟨(mem_overlappingNamespaces_iff a b n).mpr ⟨ownedByA, ownedByB⟩, fun admitted => apart ?_⟩
  exact exclusive_of_admittedInTurn admitted i j a b n atI atJ ownedByA ownedByB

end MCPGTenantSpec

end McpgOperatorApi
