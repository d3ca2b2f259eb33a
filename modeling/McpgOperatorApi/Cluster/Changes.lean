import McpgOperatorApi.Cluster.Managed

namespace McpgOperatorApi

open Collections Serde Text

/-!
# Changes of a coordinator binding

When a binding changes, the gateways notice what changes in the rendered
block, and admission notices what changes in the verdict of the transport
check.  Every binding has an explicit form, one that is not managed and renders
the same block; two bindings render the same block exactly when their explicit
forms have the same backend and, for an external one, the same configuration.
The verdict depends on three keys of the configuration.
-/

/-- The entries of an object as a map. -/
def toMap : Value → BTreeMap String Value
  | .object entries => .ofEntries entries
  | _ => .empty

theorem get?_toMap_ofMap (map : BTreeMap String Value) (key : String) :
    (toMap (.ofMap map)).get? key = map.get? key := by
  rw [Value.ofMap, toMap, BTreeMap.ofEntries_entries]

theorem ofMap_eq_iff (left right : BTreeMap String Value) :
    Value.ofMap left = Value.ofMap right ↔
      ∀ key, (Value.ofMap left).get? key = (Value.ofMap right).get? key := by
  constructor
  · intro same key
    rw [same]
  · intro lookups
    rw [BTreeMap.ext lookups]

namespace ClusterBackend

theorem configKind_injective {left right : ClusterBackend}
    (same : left.configKind = right.configKind) : left = right := by
  cases left <;> cases right <;> first | rfl | exact absurd same (by decide)

end ClusterBackend

namespace MCPGClusterSpec

/-! ## The explicit form -/

/-- The binding with the managed coordinator written out as the existing one
that it is rendered as. -/
def handOver (spec : MCPGClusterSpec) (clusterName operatorNamespace : String) : MCPGClusterSpec :=
  { spec with
    backend := .nats
    config := (toMap (spec.renderManagedClusterBlock clusterName operatorNamespace)).erase "kind"
    managed := none }

/-- The binding without a managed coordinator that renders the same block. -/
def explicit (spec : MCPGClusterSpec) (clusterName operatorNamespace : String) : MCPGClusterSpec :=
  if spec.managed.isSome then spec.handOver clusterName operatorNamespace else spec

theorem explicit_of_managed {spec : MCPGClusterSpec} (managed : spec.managed.isSome = true)
    (clusterName ns : String) : spec.explicit clusterName ns = spec.handOver clusterName ns :=
  if_pos managed

theorem explicit_of_unmanaged {spec : MCPGClusterSpec} (unmanaged : spec.managed = none)
    (clusterName ns : String) : spec.explicit clusterName ns = spec := by
  rw [explicit, unmanaged]
  rfl

theorem get?_handOver_config (spec : MCPGClusterSpec) (clusterName ns key : String) :
    (spec.handOver clusterName ns).config.get? key =
      if key = "kind" then none else (spec.renderManagedClusterBlock clusterName ns).get? key := by
  rw [handOver, BTreeMap.get?_erase]
  split
  · rfl
  · exact get?_toMap_ofMap _ key

/-- Blocks of existing coordinators are told apart by their lookups. -/
theorem renderClusterBlock_ext {s t : MCPGClusterSpec}
    (lookups : ∀ key, s.renderClusterBlock.get? key = t.renderClusterBlock.get? key) :
    s.renderClusterBlock = t.renderClusterBlock :=
  (ofMap_eq_iff _ _).mpr lookups

/-- The block written out is the block. -/
theorem renderClusterBlock_handOver (spec : MCPGClusterSpec) (clusterName ns : String) :
    (spec.handOver clusterName ns).renderClusterBlock = spec.renderManagedClusterBlock clusterName ns := by
  apply (ofMap_eq_iff _ _).mpr
  intro key
  change (spec.handOver clusterName ns).renderClusterBlock.get? key =
    (spec.renderManagedClusterBlock clusterName ns).get? key
  rw [get?_renderClusterBlock, get?_handOver_config]
  by_cases kind : key = "kind"
  · subst kind
    rw [get?_renderManagedClusterBlock_kind]
    rfl
  · rw [if_neg kind, if_neg kind, Option.or_none]
    rfl

/-- Without a `kind` in either configuration, the block determines the backend
and, when that is external, the configuration. -/
theorem renderClusterBlock_eq_iff {s t : MCPGClusterSpec} (sFree : s.config.get? "kind" = none)
    (tFree : t.config.get? "kind" = none) :
    s.renderClusterBlock = t.renderClusterBlock ↔
      s.backend = t.backend ∧ (s.backend.isSingleNode = false → s.config = t.config) := by
  have kind : ∀ {spec : MCPGClusterSpec}, spec.config.get? "kind" = none →
      spec.renderClusterBlock.get? "kind" = some (.string spec.backend.configKind) := by
    intro spec free
    rw [get?_renderClusterBlock, if_pos rfl, free, ite_self, Option.none_or]
  constructor
  · intro same
    have kinds : s.backend.configKind = t.backend.configKind := by
      have lookup := congrArg (fun block => block.get? "kind") same
      simp only [kind sFree, kind tFree, Option.some.injEq, Value.string.injEq] at lookup
      exact lookup
    have backend := ClusterBackend.configKind_injective kinds
    refine ⟨backend, ?_⟩
    intro external
    ext1 key
    by_cases named : key = "kind"
    · rw [named, sFree, tFree]
    · rw [← get?_renderClusterBlock_of_ne external named, same,
        get?_renderClusterBlock_of_ne (backend ▸ external) named]
  · intro agree
    rcases agree with ⟨backend, config⟩
    apply renderClusterBlock_ext
    intro key
    rw [get?_renderClusterBlock, get?_renderClusterBlock, ← backend]
    by_cases external : s.backend.isSingleNode = false
    · rw [config external]
    · rw [Bool.not_eq_false] at external
      rw [external]
      rfl

theorem renderClusterBlock_explicit (spec : MCPGClusterSpec) (clusterName ns : String) :
    (spec.explicit clusterName ns).renderClusterBlock = spec.renderClusterBlockWith clusterName ns := by
  by_cases managed : spec.managed.isSome = true
  · rw [explicit_of_managed managed, renderClusterBlockWith_of_managed managed,
      renderClusterBlock_handOver]
  · have unmanaged : spec.managed = none := by simpa using managed
    rw [explicit_of_unmanaged unmanaged, renderClusterBlockWith_of_unmanaged unmanaged]

theorem managed_explicit (spec : MCPGClusterSpec) (clusterName ns : String) :
    (spec.explicit clusterName ns).managed = none := by
  by_cases managed : spec.managed.isSome = true
  · rw [explicit_of_managed managed]
    rfl
  · have unmanaged : spec.managed = none := by simpa using managed
    rw [explicit_of_unmanaged unmanaged, unmanaged]

/-- A coordinator that was written out passes the transport check. -/
theorem insecureTransportReason_handOver (spec : MCPGClusterSpec) (clusterName ns : String) :
    (spec.handOver clusterName ns).insecureTransportReason = none := by
  rw [← Option.not_isSome_iff_eq_none, isSome_insecureTransportReason_iff]
  intro refused
  rcases refused with ⟨reads, optsIn⟩
  have lookups : ∀ key, key ≠ "kind" → (spec.handOver clusterName ns).config.get? key =
      (spec.renderManagedClusterBlock clusterName ns).get? key := by
    intro key named
    rw [get?_handOver_config, if_neg named]
  have plaintext : Plaintext (spec.renderManagedClusterBlock clusterName ns) := by
    refine ⟨"nats", ?_, (plaintextAs_congr "nats" lookups).mp reads⟩
    rw [blockKind, get?_renderManagedClusterBlock_kind]
    rfl
  apply optsIn
  rw [OptsOut, lookups _ (by decide)]
  exact optsOut_of_plaintext_managed spec clusterName ns plaintext

/-- What the explicit form of a binding keeps. -/
structure ExplicitForm (spec : MCPGClusterSpec) (clusterName operatorNamespace : String) : Prop where
  unmanaged : (spec.explicit clusterName operatorNamespace).managed = none
  /-- The gateways are shown the same block, under whatever names. -/
  block : ∀ otherName otherNamespace,
    (spec.explicit clusterName operatorNamespace).renderClusterBlockWith otherName otherNamespace =
      spec.renderClusterBlockWith clusterName operatorNamespace
  /-- The operator believes in the same backend. -/
  backend : (spec.explicit clusterName operatorNamespace).effectiveBackend = spec.effectiveBackend
  /-- A managed coordinator that was written out passes the transport check. -/
  accepted : spec.managed.isSome = true →
    (spec.explicit clusterName operatorNamespace).insecureTransportReason = none
  /-- There is nothing left to write out. -/
  idem : ∀ otherName otherNamespace,
    (spec.explicit clusterName operatorNamespace).explicit otherName otherNamespace =
      spec.explicit clusterName operatorNamespace

/-- Every binding has its explicit form. -/
theorem explicitForm (spec : MCPGClusterSpec) (clusterName operatorNamespace : String) :
    spec.ExplicitForm clusterName operatorNamespace where
  unmanaged := spec.managed_explicit clusterName operatorNamespace
  block otherName otherNamespace := by
    rw [renderClusterBlockWith_of_unmanaged (spec.managed_explicit _ _), renderClusterBlock_explicit]
  backend := by
    by_cases managed : spec.managed.isSome = true
    · rw [explicit_of_managed managed, effectiveBackend_of_managed managed]
      rfl
    · have unmanaged : spec.managed = none := by simpa using managed
      rw [explicit_of_unmanaged unmanaged]
  accepted managed := by
    rw [explicit_of_managed managed, insecureTransportReason_handOver]
  idem otherName otherNamespace := explicit_of_unmanaged (spec.managed_explicit _ _) _ _

/-- The explicit form brings no `kind` along, unless an existing coordinator
is configured with one. -/
theorem get?_explicit_config_kind {spec : MCPGClusterSpec}
    (free : spec.managed = none → spec.config.get? "kind" = none) (clusterName ns : String) :
    (spec.explicit clusterName ns).config.get? "kind" = none := by
  by_cases managed : spec.managed.isSome = true
  · rw [explicit_of_managed managed, get?_handOver_config, if_pos rfl]
  · have unmanaged : spec.managed = none := by simpa using managed
    rw [explicit_of_unmanaged unmanaged, free unmanaged]

/-- A change of a binding is invisible to the gateways exactly when it leaves
the backend and the external configuration of the explicit form alone. -/
theorem renderClusterBlockWith_eq_iff {s t : MCPGClusterSpec}
    (sFree : s.managed = none → s.config.get? "kind" = none)
    (tFree : t.managed = none → t.config.get? "kind" = none) (clusterName ns : String) :
    s.renderClusterBlockWith clusterName ns = t.renderClusterBlockWith clusterName ns ↔
      (s.explicit clusterName ns).backend = (t.explicit clusterName ns).backend ∧
        ((s.explicit clusterName ns).backend.isSingleNode = false →
          (s.explicit clusterName ns).config = (t.explicit clusterName ns).config) := by
  rw [← renderClusterBlock_explicit, ← renderClusterBlock_explicit,
    renderClusterBlock_eq_iff (get?_explicit_config_kind sFree _ _)
      (get?_explicit_config_kind tFree _ _)]

/-- Writing out a managed coordinator by hand is invisible. -/
theorem renderClusterBlockWith_writtenOut :
    managedPlain.renderClusterBlockWith "shared" "mcpg-system" =
      (managedPlain.handOver "shared" "mcpg-system").renderClusterBlockWith "shared" "mcpg-system" := by
  refine (renderClusterBlockWith_eq_iff ?_ ?_ "shared" "mcpg-system").mpr ⟨rfl, fun _ => rfl⟩
  · intro unmanaged
    cases unmanaged
  · intro _
    rfl

/-! ## The size of a managed coordinator -/

theorem get?_renderManagedClusterBlock_jetstream (spec : MCPGClusterSpec) (clusterName ns : String) :
    (spec.renderManagedClusterBlock clusterName ns).get? "jetstream" = some (.ofEntries
      [("replicas", serialize (1 : Int32)), ("storage", .string "file")]) := by
  cases tls : spec.managedTlsEnabled <;>
    simp [renderManagedClusterBlock, tls, BTreeMap.get?_insert] <;> rfl

/-- No request survives the cap. -/
theorem capped_eq_one (request : UInt8) : min (max request 1) 1 = 1 := by
  change (if (if request ≤ 1 then 1 else request) ≤ 1 then _ else _) = (1 : UInt8)
  by_cases small : request ≤ 1
  · simp only [max, small, if_true, UInt8.le_refl]
  · simp only [max, small, if_false]

theorem managedNatsReplicas_of_managed {spec : MCPGClusterSpec} {m : ManagedCoordinator}
    (managed : spec.managed = some m) : spec.managedNatsReplicas = some 1 := by
  rw [managedNatsReplicas, managed, Option.map_some, capped_eq_one]
  rfl

/-- A count of one falls short of every larger request. -/
theorem toInt_one_lt_iff (request : UInt8) :
    MachineInt.toInt (1 : Int32) < MachineInt.toInt request ↔ request > 1 := by
  change (1 : Int) < (request.toNat : Int) ↔ 1 < request
  have small : (1 : UInt8).toNat = 1 := rfl
  rw [UInt8.lt_iff_toNat_lt, small]
  omega

/-- The block, the replica count and the warning about the cap agree on the
size of a managed coordinator: the block shows the count, and the warning is
given when the count falls short of the request. -/
theorem managedReplicas_agree (spec : MCPGClusterSpec) (clusterName ns : String) :
    (∀ count, spec.managedNatsReplicas = some count →
      ((spec.renderClusterBlockWith clusterName ns).get? "jetstream").bind
        (fun part => part.get? "replicas") = some (serialize count)) ∧
    (spec.managedReplicasCapped = true ↔
      ∃ m request count, spec.managed = some m ∧ m.replicas = some request ∧
        spec.managedNatsReplicas = some count ∧ MachineInt.toInt count < MachineInt.toInt request) := by
  cases managed : spec.managed with
  | none =>
      rw [managedNatsReplicas, managedReplicasCapped, managed]
      constructor
      · intro count given
        cases given
      · apply iff_of_false
        · exact Bool.false_ne_true
        · intro ⟨m, request, count, given, _⟩
          cases given
  | some m =>
      have count := managedNatsReplicas_of_managed managed
      rw [count]
      constructor
      · intro shown given
        cases given
        have isManaged : spec.managed.isSome = true := by rw [managed, Option.isSome_some]
        rw [renderClusterBlockWith_of_managed isManaged, get?_renderManagedClusterBlock_jetstream]
        rfl
      · rw [managedReplicasCapped, managed, Option.bind_some, Option.any_eq_true]
        simp only [decide_eq_true_eq, ← toInt_one_lt_iff, Option.some.injEq]
        constructor
        · intro ⟨request, given, more⟩
          exact ⟨m, request, 1, rfl, given, rfl, more⟩
        · intro ⟨other, request, shown, same, given, equal, more⟩
          cases same
          cases equal
          exact ⟨request, given, more⟩

/-! ## The verdict -/

/-- The configuration field that makes a coordinator plaintext. -/
def checkedField : ClusterBackend → Option String
  | .singleNode => none
  | .redis => some "url"
  | .nats => some "tls.require_tls"

/-- The binding with one configuration entry set to a value or, without a value,
removed. -/
def editing (spec : MCPGClusterSpec) (key : String) (entry : Option Value) : MCPGClusterSpec :=
  { spec with
    config := match entry with
      | some value => spec.config.insert key value
      | none => spec.config.erase key }

/-- Leaving the entry at the key makes a plaintext binding acceptable: it opts
out, or it replaces the entry that the check reads for the backend by one that
is not plaintext. -/
def Cures (spec : MCPGClusterSpec) (key : String) (entry : Option Value) : Prop :=
  (key = "allow_insecure_transport" ∧ entry = some (.bool true)) ∨
  (spec.backend = .redis ∧ key = "url" ∧
    ∀ url, entry = some (.string url) → startsWith (trimStart url) "redis://" = false) ∨
  (spec.backend = .nats ∧ key = "tls" ∧
    ∀ tls, entry = some tls → tls.get? "require_tls" ≠ some (.bool false))

theorem get?_editing (spec : MCPGClusterSpec) (key : String) (entry : Option Value) (k : String) :
    (spec.editing key entry).config.get? k = if k = key then entry else spec.config.get? k := by
  cases entry with
  | none => exact BTreeMap.get?_erase _ _ _
  | some value => exact BTreeMap.get?_insert _ _ _ _

/-- A binding that does not opt out does so after setting the opt-out only. -/
theorem optsOut_editing_iff {spec : MCPGClusterSpec} (optsIn : ¬ OptsOut spec.config.get?)
    (key : String) (entry : Option Value) :
    OptsOut (spec.editing key entry).config.get? ↔
      key = "allow_insecure_transport" ∧ entry = some (.bool true) := by
  rw [OptsOut, get?_editing]
  by_cases same : "allow_insecure_transport" = key
  · rw [if_pos same]
    exact (and_iff_right same.symm).symm
  · rw [if_neg same]
    exact iff_of_false optsIn (fun opted => same opted.1.symm)

/-- A plaintext binding is no longer plaintext after replacing the entry that
makes it so. -/
theorem not_plaintextAs_editing_iff {spec : MCPGClusterSpec}
    (plaintext : PlaintextAs spec.backend.configKind spec.config.get?) (key : String)
    (entry : Option Value) :
    ¬ PlaintextAs spec.backend.configKind (spec.editing key entry).config.get? ↔
      (spec.backend = .redis ∧ key = "url" ∧
        ∀ url, entry = some (.string url) → startsWith (trimStart url) "redis://" = false) ∨
      (spec.backend = .nats ∧ key = "tls" ∧
        ∀ tls, entry = some tls → tls.get? "require_tls" ≠ some (.bool false)) := by
  cases backend : spec.backend with
  | singleNode =>
      rw [backend] at plaintext
      exact absurd plaintext (not_plaintextAs_single_node _)
  | redis =>
      rw [backend, ClusterBackend.configKind, plaintextAs_redis_iff] at plaintext
      rw [ClusterBackend.configKind, plaintextAs_redis_iff, get?_editing]
      by_cases same : "url" = key
      · simp [← same]
      · rw [if_neg same]
        simp [plaintext, Ne.symm same]
  | nats =>
      rw [backend, ClusterBackend.configKind, plaintextAs_nats_iff] at plaintext
      rw [ClusterBackend.configKind, plaintextAs_nats_iff, get?_editing]
      by_cases same : "tls" = key
      · simp [← same]
      · rw [if_neg same]
        simp [plaintext, Ne.symm same]

/-- A rejection names the field that the check has read. -/
theorem message_of_rejected {spec : MCPGClusterSpec} {message : String}
    (rejected : spec.insecureTransportReason = some message) :
    ∃ field before behind, checkedField spec.backend = some field ∧
      message = before ++ "`" ++ field ++ "`" ++ behind := by
  unfold insecureTransportReason at rejected
  cases backend : spec.backend with
  | singleNode =>
      simp [backend, ClusterBackend.isSingleNode] at rejected
  | redis =>
      simp only [backend, ClusterBackend.isSingleNode, Bool.false_eq_true, if_false] at rejected
      split at rejected
      · cases rejected
      · rcases Option.map_eq_some_iff.mp rejected with ⟨_, _, rfl⟩
        exact ⟨"url", "the redis ", " uses the plaintext `redis://` scheme (use `rediss://`)", rfl,
          by decide⟩
  | nats =>
      simp only [backend, ClusterBackend.isSingleNode, Bool.false_eq_true, if_false] at rejected
      split at rejected
      · cases rejected
      · rcases Option.map_eq_some_iff.mp rejected with ⟨_, _, rfl⟩
        exact ⟨"tls.require_tls", "nats ", " is set to `false` (plaintext)", rfl, by decide⟩

/-- A rejected binding names the field that is to blame, and setting or removing
one entry makes it acceptable exactly when it opts out or mends that field. -/
theorem insecureTransportReason_cured_iff {spec : MCPGClusterSpec} {message : String}
    (rejected : spec.insecureTransportReason = some message) :
    (∃ field before behind, checkedField spec.backend = some field ∧
      message = before ++ "`" ++ field ++ "`" ++ behind) ∧
    ∀ key entry, (spec.editing key entry).insecureTransportReason = none ↔ spec.Cures key entry := by
  have refused : spec.insecureTransportReason.isSome = true := by rw [rejected, Option.isSome_some]
  rcases (isSome_insecureTransportReason_iff spec).mp refused with ⟨plaintext, optsIn⟩
  refine ⟨message_of_rejected rejected, ?_⟩
  intro key entry
  rw [← Option.not_isSome_iff_eq_none, isSome_insecureTransportReason_iff, not_and_or, not_not,
    optsOut_editing_iff optsIn, Cures, ← not_plaintextAs_editing_iff plaintext, or_comm]
  rfl

/-- A Redis binding over plaintext. -/
def plainRedis : MCPGClusterSpec :=
  { (default : MCPGClusterSpec) with
    backend := .redis
    config := .ofEntries [("url", .string "redis://cache:6379")] }

/-- It is rejected, and accepted once the URL is an encrypted one or gone. -/
theorem insecureTransportReason_cured_plainRedis :
    plainRedis.insecureTransportReason =
        some "the redis `url` uses the plaintext `redis://` scheme (use `rediss://`)" ∧
      (plainRedis.editing "url" (some (.string "rediss://cache:6379"))).insecureTransportReason = none ∧
      (plainRedis.editing "url" none).insecureTransportReason = none := by
  have rejected : plainRedis.insecureTransportReason =
      some "the redis `url` uses the plaintext `redis://` scheme (use `rediss://`)" := by
    decide
  refine ⟨rejected, ?_, ?_⟩
  · apply ((insecureTransportReason_cured_iff rejected).2 _ _).mpr
    refine Or.inr (Or.inl ⟨rfl, rfl, ?_⟩)
    intro url same
    cases same
    decide
  · apply ((insecureTransportReason_cured_iff rejected).2 _ _).mpr
    refine Or.inr (Or.inl ⟨rfl, rfl, ?_⟩)
    intro url absent
    cases absent

end MCPGClusterSpec

end McpgOperatorApi
