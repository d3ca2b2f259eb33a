import McpgOperatorApi.Tenancy.Namespaces

namespace McpgOperatorApi

open Collections

/-!
# The tenants of a cluster

A namespace belongs to at most one tenant.  Tenants come and go and change
their namespaces, so the promise is about the stored tenants after any series
of requests: a tenant is created or replaced when it shares no namespace with
any other stored one, and it can be deleted at any time.  A refused request
leaves everything as it is.
-/

/-- The stored tenants, by name. -/
abbrev TenantRegistry := BTreeMap String MCPGTenantSpec

/-- A request about one tenant. -/
inductive TenantRequest where
  | apply (name : String) (spec : MCPGTenantSpec)
  | delete (name : String)

namespace TenantRegistry

/-- The other stored tenants that share namespaces with the given one, and
which. -/
def conflicts (registry : TenantRegistry) (name : String) (spec : MCPGTenantSpec) :
    List (String × List String) :=
  registry.entries.filterMap fun entry =>
    let shared := spec.overlappingNamespaces entry.2
    if entry.1 = name ∨ shared = [] then none else some (entry.1, shared)

/-- A tenant is admitted when it shares no namespace with another one. -/
def admits (registry : TenantRegistry) (name : String) (spec : MCPGTenantSpec) : Bool :=
  (registry.conflicts name spec).isEmpty

/-- What a request does to the stored tenants. -/
def step (registry : TenantRegistry) : TenantRequest → TenantRegistry
  | .apply name spec => if registry.admits name spec then registry.insert name spec else registry
  | .delete name => registry.erase name

/-- The stored tenants after a series of requests. -/
def run (requests : List TenantRequest) : TenantRegistry :=
  requests.foldl step .empty

/-- The names of the tenants that own a namespace. -/
def owners (registry : TenantRegistry) (n : String) : List String :=
  (registry.entries.filter (fun entry => entry.2.ownsNamespace n)).map Prod.fst

/-- No namespace has two owners. -/
def Exclusive (registry : TenantRegistry) : Prop :=
  ∀ a b s t n, registry.get? a = some s → registry.get? b = some t → s.ownsNamespace n = true →
    t.ownsNamespace n = true → a = b

variable {registry : TenantRegistry} {name : String} {spec : MCPGTenantSpec}

theorem mem_conflicts_iff (other : String) (shared : List String) :
    (other, shared) ∈ registry.conflicts name spec ↔
      other ≠ name ∧ shared ≠ [] ∧
        ∃ t, registry.get? other = some t ∧ shared = spec.overlappingNamespaces t := by
  rw [conflicts, List.mem_filterMap]
  constructor
  · intro ⟨⟨key, t⟩, listed, found⟩
    simp only [Option.ite_none_left_eq_some, Option.some.injEq, Prod.mk.injEq, not_or] at found
    rcases found with ⟨⟨different, nonempty⟩, rfl, rfl⟩
    exact ⟨different, nonempty, t, lookup_of_mem registry.increasing listed, rfl⟩
  · intro ⟨different, nonempty, t, stored, equal⟩
    subst equal
    refine ⟨(other, t), mem_of_lookup stored, ?_⟩
    exact if_neg (not_or.mpr ⟨different, nonempty⟩)

/-- A namespace that another stored tenant owns as well is among its shared
namespaces, and the tenant is among the conflicts. -/
theorem conflict_of_shared {other n : String} {t : MCPGTenantSpec} (different : other ≠ name)
    (stored : registry.get? other = some t) (owned : spec.ownsNamespace n = true)
    (also : t.ownsNamespace n = true) :
    n ∈ spec.overlappingNamespaces t ∧
      (other, spec.overlappingNamespaces t) ∈ registry.conflicts name spec := by
  have common := (MCPGTenantSpec.mem_overlappingNamespaces_iff spec t n).mpr ⟨owned, also⟩
  refine ⟨common, ?_⟩
  exact (mem_conflicts_iff _ _).mpr ⟨different, List.ne_nil_of_mem common, t, stored, rfl⟩

/-- Admission means that no other stored tenant owns a namespace of this one. -/
theorem admits_iff :
    registry.admits name spec = true ↔
      ∀ other t n, other ≠ name → registry.get? other = some t → spec.ownsNamespace n = true →
        t.ownsNamespace n = false := by
  rw [admits, List.isEmpty_iff, List.eq_nil_iff_forall_not_mem]
  constructor
  · intro clear other t n different stored owned
    rw [Bool.eq_false_iff]
    intro shared
    exact clear _ (conflict_of_shared different stored owned shared).2
  · intro free ⟨other, shared⟩ listed
    rcases (mem_conflicts_iff _ _).mp listed with ⟨different, nonempty, t, stored, rfl⟩
    rcases List.exists_mem_of_ne_nil _ nonempty with ⟨n, common⟩
    rcases (MCPGTenantSpec.mem_overlappingNamespaces_iff spec t n).mp common with ⟨owned, also⟩
    rw [free other t n different stored owned] at also
    cases also

/-- A tenant is admitted exactly when storing it gives no namespace two
owners. -/
theorem admits_iff_exclusive_insert (exclusive : registry.Exclusive) :
    registry.admits name spec = true ↔ Exclusive (registry.insert name spec) := by
  rw [admits_iff]
  constructor
  · intro free a b s t n atA atB ownedByA ownedByB
    rw [BTreeMap.get?_insert] at atA atB
    by_cases aNew : a = name
    · by_cases bNew : b = name
      · exact aNew.trans bNew.symm
      · rw [if_pos aNew, Option.some.injEq] at atA
        rw [if_neg bNew] at atB
        rw [free b t n bNew atB (atA ▸ ownedByA)] at ownedByB
        cases ownedByB
    · rw [if_neg aNew] at atA
      by_cases bNew : b = name
      · rw [if_pos bNew, Option.some.injEq] at atB
        rw [free a s n aNew atA (atB ▸ ownedByB)] at ownedByA
        cases ownedByA
      · rw [if_neg bNew] at atB
        exact exclusive a b s t n atA atB ownedByA ownedByB
  · intro after other t n different stored owned
    rw [Bool.eq_false_iff]
    intro shared
    apply different
    refine after other name t spec n ?_ (BTreeMap.get?_insert_self _ _ _) shared owned
    rw [BTreeMap.get?_insert_of_ne _ different, stored]

/-- Deleting a tenant leaves exclusive ownership alone. -/
theorem exclusive_erase (exclusive : registry.Exclusive) (gone : String) :
    Exclusive (registry.erase gone) := by
  intro a b s t n atA atB
  rw [BTreeMap.get?_erase] at atA atB
  split at atA
  · cases atA
  · split at atB
    · cases atB
    · exact exclusive a b s t n atA atB

/-- Every request leaves exclusive ownership alone. -/
theorem exclusive_step (exclusive : registry.Exclusive) (request : TenantRequest) :
    Exclusive (registry.step request) := by
  cases request with
  | apply name spec =>
      rw [step]
      split
      · rename_i admitted
        exact (admits_iff_exclusive_insert exclusive).mp admitted
      · exact exclusive
  | delete name => exact exclusive_erase exclusive name

/-- No series of requests gives a namespace two owners. -/
theorem exclusive_run (requests : List TenantRequest) : Exclusive (run requests) := by
  induction requests using List.reverseRecOn with
  | nil =>
      intro a b s t n atA
      cases atA
  | append_singleton requests request ih =>
      rw [run, List.foldl_append]
      exact exclusive_step ih request

/-- The owners of a namespace are listed with their specs. -/
theorem mem_owners_iff (n owner : String) :
    owner ∈ registry.owners n ↔ ∃ s, registry.get? owner = some s ∧ s.ownsNamespace n = true := by
  rw [owners, List.mem_map]
  constructor
  · intro ⟨⟨key, s⟩, listed, same⟩
    rcases List.mem_filter.mp listed with ⟨stored, owned⟩
    cases same
    exact ⟨s, lookup_of_mem registry.increasing stored, owned⟩
  · intro ⟨s, stored, owned⟩
    exact ⟨(owner, s), List.mem_filter.mpr ⟨mem_of_lookup stored, owned⟩, rfl⟩

theorem length_owners_le_one (exclusive : registry.Exclusive) (n : String) :
    (registry.owners n).length ≤ 1 := by
  have distinct : (registry.owners n).Nodup := by
    have increasing : (registry.entries.map Prod.fst).Pairwise (· < ·) := registry.increasing
    have all := increasing.imp ne_of_lt
    exact all.sublist (List.filter_sublist.map Prod.fst)
  cases listed : registry.owners n with
  | nil => exact Nat.zero_le _
  | cons first others =>
      cases others with
      | nil => exact Nat.le_refl _
      | cons second more =>
          rw [listed] at distinct
          have firstOwns := (mem_owners_iff n first).mp (listed ▸ List.mem_cons_self)
          have secondOwns := (mem_owners_iff n second).mp
            (listed ▸ List.mem_cons_of_mem _ List.mem_cons_self)
          rcases firstOwns with ⟨s, atFirst, owned⟩
          rcases secondOwns with ⟨t, atSecond, also⟩
          have same := exclusive first second s t n atFirst atSecond owned also
          exact absurd (same ▸ List.mem_cons_self) (List.nodup_cons.mp distinct).1

/-- What holds of the stored tenants. -/
structure OwnershipLaws (registry : TenantRegistry) : Prop where
  /-- A namespace has at most one owner. -/
  owner : ∀ n, (registry.owners n).length ≤ 1
  /-- A tenant is refused exactly when storing it would give some namespace two
  owners. -/
  exact : ∀ name spec, registry.admits name spec = true ↔ Exclusive (registry.insert name spec)
  /-- The reasons for a refusal list a namespace under another tenant exactly
  when both tenants own it. -/
  reasons : ∀ name spec other n,
    (∃ shared, (other, shared) ∈ registry.conflicts name spec ∧ n ∈ shared) ↔
      spec.ownsNamespace n = true ∧ other ∈ registry.owners n ∧ other ≠ name
  /-- The reasons are listed by name, one for each tenant, and none is empty. -/
  listed : ∀ name spec,
    (registry.conflicts name spec).Pairwise (fun earlier later => earlier.1 < later.1) ∧
      ∀ conflict ∈ registry.conflicts name spec, conflict.2 ≠ []
  /-- Deleting a tenant admits what only that tenant stood in the way of. -/
  freed : ∀ name spec gone, (∀ conflict ∈ registry.conflicts name spec, conflict.1 = gone) →
    (registry.step (.delete gone)).admits name spec = true
  /-- Two tenants that were both tested before either was stored can be stored
  together exactly when they share no namespace. -/
  raced : ∀ a b s t, a ≠ b → registry.admits a s = true → registry.admits b t = true →
    (Exclusive ((registry.insert a s).insert b t) ↔ s.overlappingNamespaces t = [])

theorem reasons_iff (other n : String) :
    (∃ shared, (other, shared) ∈ registry.conflicts name spec ∧ n ∈ shared) ↔
      spec.ownsNamespace n = true ∧ other ∈ registry.owners n ∧ other ≠ name := by
  rw [mem_owners_iff]
  constructor
  · intro ⟨shared, listed, common⟩
    rcases (mem_conflicts_iff _ _).mp listed with ⟨different, -, t, stored, rfl⟩
    rcases (MCPGTenantSpec.mem_overlappingNamespaces_iff spec t n).mp common with ⟨owned, also⟩
    exact ⟨owned, ⟨t, stored, also⟩, different⟩
  · intro ⟨owned, ⟨t, stored, also⟩, different⟩
    have conflict := conflict_of_shared different stored owned also
    exact ⟨_, conflict.2, conflict.1⟩

/-- The conflicts keep the order of the stored tenants. -/
theorem pairwise_conflicts :
    (registry.conflicts name spec).Pairwise (fun earlier later => earlier.1 < later.1) := by
  have increasing : registry.entries.Pairwise (fun earlier later => earlier.1 < later.1) :=
    List.pairwise_map.mp registry.increasing
  refine increasing.filterMap _ ?_
  intro entry later below conflict reported other otherReported
  simp only [Option.ite_none_left_eq_some, Option.some.injEq] at reported otherReported
  rw [← reported.2, ← otherReported.2]
  exact below

theorem admits_erase {gone : String}
    (only : ∀ conflict ∈ registry.conflicts name spec, conflict.1 = gone) :
    (registry.step (.delete gone)).admits name spec = true := by
  rw [admits_iff]
  intro other t n different stored owned
  rw [step, BTreeMap.get?_erase] at stored
  split at stored
  · cases stored
  · rename_i remains
    rw [Bool.eq_false_iff]
    intro also
    exact remains (only _ (conflict_of_shared different stored owned also).2)

/-- After another tenant has been stored, the test only has to be repeated
against that one. -/
theorem admits_insert_iff {a b : String} {s t : MCPGTenantSpec} (different : a ≠ b)
    (tested : registry.admits b t = true) :
    TenantRegistry.admits (registry.insert a s) b t = true ↔ s.overlappingNamespaces t = [] := by
  rw [admits_iff, List.eq_nil_iff_forall_not_mem]
  constructor
  · intro free n common
    rcases (MCPGTenantSpec.mem_overlappingNamespaces_iff s t n).mp common with ⟨owned, also⟩
    rw [free a s n different (BTreeMap.get?_insert_self _ _ _) also] at owned
    cases owned
  · intro disjoint other u n apart stored owned
    rw [BTreeMap.get?_insert] at stored
    split at stored
    · cases stored
      rw [Bool.eq_false_iff]
      intro also
      exact disjoint n ((MCPGTenantSpec.mem_overlappingNamespaces_iff _ _ n).mpr ⟨also, owned⟩)
    · exact admits_iff.mp tested other u n apart stored owned

/-- The laws of ownership hold after every series of requests. -/
theorem ownershipLaws_run (requests : List TenantRequest) : OwnershipLaws (run requests) where
  owner := length_owners_le_one (exclusive_run requests)
  exact _ _ := admits_iff_exclusive_insert (exclusive_run requests)
  reasons _ _ := reasons_iff
  listed _ _ := by
    refine ⟨pairwise_conflicts, ?_⟩
    intro ⟨other, shared⟩ member
    exact ((mem_conflicts_iff other shared).mp member).2.1
  freed _ _ _ := admits_erase
  raced a b s t different first second := by
    have stored := (admits_iff_exclusive_insert (exclusive_run requests)).mp first
    exact (admits_iff_exclusive_insert stored).symm.trans (admits_insert_iff different second)

end TenantRegistry

end McpgOperatorApi
