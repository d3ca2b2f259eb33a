import Mathlib.Logic.Relation
import McpgOperatorApi.V1alpha1.Route
import McpgOperatorApi.Text.Utf8

namespace McpgOperatorApi

open Collections

/-!
# The plugins named by a route

A route names plugins in three chains.  An id may occur in several of them,
and several times in one.  What is checked is a single list, put together by
sorting and by dropping equal neighbours.  It is the canonical list of the set
of named ids: no id is lost in it, and the arrangement of the ids over the
chains leaves no trace.
-/

/-- The chains of a route. -/
inductive Chain where
  | identity
  | policy
  | audit

namespace MCPGRouteSpec

variable (spec : MCPGRouteSpec)

/-- The ids of a chain. -/
def chain : Chain → List String
  | .identity => spec.identityChain
  | .policy => spec.policyChain
  | .audit => spec.auditChain

/-- Exchange the ids of a chain. -/
def setChain : Chain → List String → MCPGRouteSpec
  | .identity, ids => { spec with identityChain := ids }
  | .policy, ids => { spec with policyChain := ids }
  | .audit, ids => { spec with auditChain := ids }

/-- The id occurs in one of the chains. -/
def Names (id : String) : Prop :=
  ∃ chain, id ∈ spec.chain chain

/-- One rearrangement of the ids.  Positions do not matter to any of the three
steps, so each list is given up to its order. -/
inductive Rearranges : MCPGRouteSpec → Prop
  /-- The ids of one chain are permuted. -/
  | permuted (chain : Chain) {ids : List String} (same : ids.Perm (spec.chain chain)) :
      Rearranges (spec.setChain chain ids)
  /-- An id is moved from one chain to another. -/
  | moved {source target : Chain} (apart : source ≠ target) {id : String} {rest ids : List String}
      (taken : (spec.chain source).Perm (id :: rest)) (given : ids.Perm (id :: spec.chain target)) :
      Rearranges ((spec.setChain source rest).setChain target ids)
  /-- An id that the route names is repeated in some chain. -/
  | repeated (target : Chain) {id : String} {ids : List String} (named : spec.Names id)
      (again : ids.Perm (id :: spec.chain target)) :
      Rearranges (spec.setChain target ids)

/-- What the list of plugins has to do with the chains. -/
structure ListsChains : Prop where
  increasing : spec.allChainPlugins.Pairwise (fun a b => Text.bytes a < Text.bytes b)
  members : ∀ id, id ∈ spec.allChainPlugins ↔
    id ∈ spec.identityChain ∨ id ∈ spec.policyChain ∨ id ∈ spec.auditChain
  /-- The length is the number of distinct ids. -/
  length : spec.allChainPlugins.length =
    (spec.identityChain.toFinset ∪ spec.policyChain.toFinset ∪ spec.auditChain.toFinset).card
  /-- The sort need not be stable. -/
  anySort : ∀ sorted : List String,
    sorted.Perm (spec.identityChain ++ spec.policyChain ++ spec.auditChain) →
      sorted.Pairwise (· ≤ ·) → sorted.destutter (· ≠ ·) = spec.allChainPlugins
  /-- Routes that name the same ids have the same list. -/
  sameIds : ∀ other : MCPGRouteSpec, (∀ id, other.Names id ↔ spec.Names id) →
    other.allChainPlugins = spec.allChainPlugins
  /-- No run of permutations, moves and repetitions changes the list. -/
  rearranged : ∀ other, Relation.ReflTransGen Rearranges spec other →
    other.allChainPlugins = spec.allChainPlugins

variable {spec}

theorem names_iff (id : String) :
    spec.Names id ↔ id ∈ spec.identityChain ∨ id ∈ spec.policyChain ∨ id ∈ spec.auditChain := by
  constructor
  · intro named
    rcases named with ⟨chain, member⟩
    cases chain with
    | identity => exact Or.inl member
    | policy => exact Or.inr (Or.inl member)
    | audit => exact Or.inr (Or.inr member)
  · intro member
    rcases member with first | second | third
    · exact ⟨.identity, first⟩
    · exact ⟨.policy, second⟩
    · exact ⟨.audit, third⟩

/-- No named id is lost, and none is invented. -/
theorem mem_allChainPlugins (id : String) : id ∈ spec.allChainPlugins ↔ spec.Names id := by
  rw [allChainPlugins, mem_sortDedup, List.mem_append, List.mem_append, or_assoc, names_iff]

theorem allChainPlugins_increasing : spec.allChainPlugins.Pairwise (· < ·) :=
  sortDedup_increasing _

/-- The list depends on nothing but the set of named ids. -/
theorem allChainPlugins_congr {other : MCPGRouteSpec}
    (same : ∀ id, other.Names id ↔ spec.Names id) :
    other.allChainPlugins = spec.allChainPlugins := by
  apply eq_of_mem_iff allChainPlugins_increasing allChainPlugins_increasing
  intro id
  rw [mem_allChainPlugins, mem_allChainPlugins, same]

/-! ## Rearrangements -/

@[simp] theorem chain_setChain_self (chain : Chain) (ids : List String) :
    (spec.setChain chain ids).chain chain = ids := by
  cases chain <;> rfl

theorem chain_setChain_of_ne {chain other : Chain} (different : other ≠ chain)
    (ids : List String) : (spec.setChain chain ids).chain other = spec.chain other := by
  cases chain <;> cases other <;> first | rfl | exact absurd rfl different

/-- Exchanging a chain exchanges its ids and leaves those of the others. -/
theorem names_setChain_iff (chain : Chain) (ids : List String) (id : String) :
    (spec.setChain chain ids).Names id ↔
      id ∈ ids ∨ ∃ other, other ≠ chain ∧ id ∈ spec.chain other := by
  constructor
  · intro named
    rcases named with ⟨other, member⟩
    by_cases same : other = chain
    · rw [same, chain_setChain_self] at member
      exact Or.inl member
    · rw [chain_setChain_of_ne same] at member
      exact Or.inr ⟨other, same, member⟩
  · intro found
    rcases found with member | ⟨other, different, member⟩
    · exact ⟨chain, by rwa [chain_setChain_self]⟩
    · exact ⟨other, by rwa [chain_setChain_of_ne different]⟩

/-- A chain may be exchanged for any list that, given the other chains, adds
no id and loses none. -/
theorem names_setChain_of_mem {chain : Chain} {ids : List String}
    (kept : ∀ id ∈ spec.chain chain, (spec.setChain chain ids).Names id)
    (known : ∀ id ∈ ids, spec.Names id) (id : String) :
    (spec.setChain chain ids).Names id ↔ spec.Names id := by
  constructor
  · intro named
    rcases (names_setChain_iff _ _ _).mp named with member | ⟨other, -, member⟩
    · exact known id member
    · exact ⟨other, member⟩
  · intro named
    rcases named with ⟨other, member⟩
    by_cases same : other = chain
    · exact kept id (same ▸ member)
    · exact (names_setChain_iff _ _ _).mpr (Or.inr ⟨other, same, member⟩)

/-- An id that leaves one chain for another is still named, and so are the
others. -/
theorem names_of_moved {source target : Chain} (apart : source ≠ target) {id : String}
    {rest ids : List String} (taken : (spec.chain source).Perm (id :: rest))
    (given : ids.Perm (id :: spec.chain target)) (x : String) :
    ((spec.setChain source rest).setChain target ids).Names x ↔ spec.Names x := by
  rw [names_setChain_iff]
  constructor
  · intro found
    rcases found with member | ⟨other, -, member⟩
    · rcases List.mem_cons.mp (given.mem_iff.mp member) with first | later
      · exact ⟨source, taken.mem_iff.mpr (first ▸ List.mem_cons_self)⟩
      · exact ⟨target, later⟩
    · by_cases same : other = source
      · rw [same, chain_setChain_self] at member
        exact ⟨source, taken.mem_iff.mpr (List.mem_cons_of_mem _ member)⟩
      · rw [chain_setChain_of_ne same] at member
        exact ⟨other, member⟩
  · intro named
    rcases named with ⟨chain, member⟩
    by_cases atTarget : chain = target
    · exact Or.inl (given.mem_iff.mpr (List.mem_cons_of_mem _ (atTarget ▸ member)))
    · apply Or.symm
      by_cases atSource : chain = source
      · subst chain
        rcases List.mem_cons.mp (taken.mem_iff.mp member) with first | later
        · exact Or.inr (given.mem_iff.mpr (first ▸ List.mem_cons_self))
        · exact Or.inl ⟨source, apart, by rwa [chain_setChain_self]⟩
      · exact Or.inl ⟨chain, atTarget, by rwa [chain_setChain_of_ne atSource]⟩

/-- A rearrangement step neither loses nor invents an id. -/
theorem names_of_rearranges {other : MCPGRouteSpec} (step : spec.Rearranges other) (id : String) :
    other.Names id ↔ spec.Names id := by
  cases step with
  | permuted chain same =>
      apply names_setChain_of_mem
      · intro id member
        exact (names_setChain_iff _ _ _).mpr (Or.inl (same.mem_iff.mpr member))
      · intro id member
        exact ⟨chain, same.mem_iff.mp member⟩
  | moved apart taken given => exact names_of_moved apart taken given id
  | repeated target named again =>
      apply names_setChain_of_mem
      · intro id member
        exact (names_setChain_iff _ _ _).mpr
          (Or.inl (again.mem_iff.mpr (List.mem_cons_of_mem _ member)))
      · intro id member
        rcases List.mem_cons.mp (again.mem_iff.mp member) with first | later
        · exact first ▸ named
        · exact ⟨target, later⟩

/-- Neither does a run of such steps. -/
theorem names_of_rearranged {other : MCPGRouteSpec}
    (run : Relation.ReflTransGen Rearranges spec other) (id : String) :
    other.Names id ↔ spec.Names id := by
  induction run with
  | refl => exact Iff.rfl
  | tail _ step ih => exact (names_of_rearranges step id).trans ih

/-- The plugins of a route are listed canonically. -/
theorem listsChains (spec : MCPGRouteSpec) : spec.ListsChains where
  increasing := allChainPlugins_increasing.imp (fun before => (Text.bytes_lt_iff _ _).mpr before)
  members id := (mem_allChainPlugins id).trans (names_iff id)
  length := by
    rw [allChainPlugins, length_sortDedup, List.toFinset_append, List.toFinset_append]
  anySort _ same ascending := destutter_eq_sortDedup same ascending
  sameIds _ same := allChainPlugins_congr same
  rearranged _ run := allChainPlugins_congr (names_of_rearranged run)

end MCPGRouteSpec

end McpgOperatorApi
