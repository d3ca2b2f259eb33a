import McpgOperatorApi.V1alpha1.Cluster

namespace McpgOperatorApi

open Collections Serde

/-!
# The rendered cluster block

The gateway learns its coordinator from the rendered block alone, while the
operator keys its checks off `effectiveBackend`.  `NamesBackend` states that
the two views agree.

The managed renderer fixes all keys.  The other one writes `kind` first and
then copies the configuration map over it, so a configuration that brings a
`kind` of its own decides what the gateway sees.
-/

/-- The kind of coordinator that a block names. -/
def blockKind (block : Value) : Option String :=
  (block.get? "kind").bind Value.asStr

namespace ClusterBackend

theorem configKind_eq_single_node_iff (backend : ClusterBackend) :
    backend.configKind = "single_node" ↔ backend.isSingleNode = true := by
  cases backend <;> decide

/-- The plugin of an external backend is named after its kind. -/
theorem pluginId_eq (backend : ClusterBackend) :
    backend.pluginId =
      if backend.isSingleNode then none else some ("dev.mcpg.cluster." ++ backend.configKind) := by
  cases backend <;> rfl

theorem isSingleNode_iff (backend : ClusterBackend) :
    backend.isSingleNode = true ↔ backend = singleNode := by
  cases backend <;> decide

theorem configKind_of_external {backend : ClusterBackend} (external : backend.isSingleNode = false) :
    backend.configKind = "redis" ∨ backend.configKind = "nats" := by
  cases backend with
  | singleNode => cases external
  | redis => exact Or.inl rfl
  | nats => exact Or.inr rfl

end ClusterBackend

namespace MCPGClusterSpec

/-- The block shows the gateway the backend that the operator believes in,
and next to it the configuration of an existing external coordinator and
nothing else. -/
structure NamesBackend (spec : MCPGClusterSpec) (block : Value) : Prop where
  kind : block.get? "kind" = some (.string spec.effectiveBackend.configKind)
  singleNode : spec.isEffectivelySingleNode = true ↔ blockKind block = some "single_node"
  pluginId : spec.effectiveBackend.pluginId =
    if spec.isEffectivelySingleNode then none
    else (blockKind block).map fun kind => "dev.mcpg.cluster." ++ kind
  verbatim : spec.managed = none → spec.isEffectivelySingleNode = false →
    ∀ key, key ≠ "kind" → block.get? key = spec.config.get? key
  bare : spec.isEffectivelySingleNode = true → ∀ key, key ≠ "kind" → block.get? key = none

/-! ## Lookups in the two blocks -/

/-- A managed block always names NATS. -/
theorem get?_renderManagedClusterBlock_kind (spec : MCPGClusterSpec) (clusterName ns : String) :
    (spec.renderManagedClusterBlock clusterName ns).get? "kind" = some (.string "nats") := by
  cases tls : spec.managedTlsEnabled <;>
    simp [renderManagedClusterBlock, tls, BTreeMap.get?_insert]

/-- The address of the client Service of a managed coordinator. -/
def managedServerUrl (tls : Bool) (clusterName operatorNamespace : String) : String :=
  (if tls then "tls" else "nats") ++ "://" ++ managedNatsServiceName clusterName ++ "." ++
    operatorNamespace ++ ".svc.cluster.local:" ++ toString managedNatsClientPort

theorem get?_renderManagedClusterBlock_servers (spec : MCPGClusterSpec) (clusterName ns : String) :
    (spec.renderManagedClusterBlock clusterName ns).get? "servers" =
      some (.array [.string (managedServerUrl spec.managedTlsEnabled clusterName ns)]) := by
  cases tls : spec.managedTlsEnabled <;>
    simp [renderManagedClusterBlock, managedServerUrl, tls, BTreeMap.get?_insert]

theorem get?_renderManagedClusterBlock_optOut (spec : MCPGClusterSpec) (clusterName ns : String) :
    (spec.renderManagedClusterBlock clusterName ns).get? "allow_insecure_transport" =
      if spec.managedTlsEnabled then none else some (.bool true) := by
  cases tls : spec.managedTlsEnabled <;>
    simp [renderManagedClusterBlock, tls, BTreeMap.get?_insert]

/-- The TLS part of a managed block. -/
def managedTlsPart (tls : Bool) : Value :=
  .ofEntries (if tls then
    [("require_tls", .bool true), ("ca_cert", .string (envReference managedNatsCaEnv))]
  else [("require_tls", .bool false)])

theorem get?_renderManagedClusterBlock_tls (spec : MCPGClusterSpec) (clusterName ns : String) :
    (spec.renderManagedClusterBlock clusterName ns).get? "tls" =
      some (managedTlsPart spec.managedTlsEnabled) := by
  cases tls : spec.managedTlsEnabled <;>
    simp [renderManagedClusterBlock, managedTlsPart, tls]

theorem get?_managedTlsPart_requireTls (tls : Bool) :
    (managedTlsPart tls).get? "require_tls" = some (.bool tls) := by
  cases tls <;> rfl

theorem get?_managedTlsPart_caCert (tls : Bool) :
    (managedTlsPart tls).get? "ca_cert" =
      if tls then some (.string (envReference managedNatsCaEnv)) else none := by
  cases tls <;> rfl

/-- The configuration takes precedence over the generated `kind`. -/
theorem get?_renderClusterBlock (spec : MCPGClusterSpec) (key : String) :
    spec.renderClusterBlock.get? key =
      ((if spec.backend.isSingleNode then none else spec.config.get? key).or
        (if key = "kind" then some (.string spec.backend.configKind) else none)) := by
  by_cases single : spec.backend.isSingleNode = true
  · simp only [renderClusterBlock, single, if_true, Value.get?_ofMap, BTreeMap.get?_insert,
      BTreeMap.get?_empty, Option.none_or]
  · simp only [renderClusterBlock, single, Bool.false_eq_true, if_false, Value.get?_ofMap,
      BTreeMap.get?_insertAll, BTreeMap.get?_insert, BTreeMap.get?_empty]

theorem renderClusterBlockWith_of_managed {spec : MCPGClusterSpec}
    (managed : spec.managed.isSome = true) (clusterName ns : String) :
    spec.renderClusterBlockWith clusterName ns = spec.renderManagedClusterBlock clusterName ns :=
  if_pos managed

theorem renderClusterBlockWith_of_unmanaged {spec : MCPGClusterSpec} (unmanaged : spec.managed = none)
    (clusterName ns : String) :
    spec.renderClusterBlockWith clusterName ns = spec.renderClusterBlock := by
  rw [renderClusterBlockWith, unmanaged]
  rfl

theorem effectiveBackend_of_managed {spec : MCPGClusterSpec} (managed : spec.managed.isSome = true) :
    spec.effectiveBackend = .nats := if_pos managed

theorem effectiveBackend_of_unmanaged {spec : MCPGClusterSpec} (unmanaged : spec.managed = none) :
    spec.effectiveBackend = spec.backend := by
  rw [effectiveBackend, unmanaged]
  rfl

/-! ## Agreement -/

/-- Two of the three observers of the backend follow from the third. -/
theorem namesBackend_of_kind {spec : MCPGClusterSpec} {block : Value}
    (kind : block.get? "kind" = some (.string spec.effectiveBackend.configKind))
    (verbatim : spec.managed = none → spec.isEffectivelySingleNode = false →
      ∀ key, key ≠ "kind" → block.get? key = spec.config.get? key)
    (bare : spec.isEffectivelySingleNode = true → ∀ key, key ≠ "kind" → block.get? key = none) :
    spec.NamesBackend block := by
  have shown : blockKind block = some spec.effectiveBackend.configKind := by
    rw [blockKind, kind]
    rfl
  refine ⟨kind, ?_, ?_, verbatim, bare⟩
  · rw [shown, Option.some.injEq, ClusterBackend.configKind_eq_single_node_iff]
    rfl
  · rw [shown, ClusterBackend.pluginId_eq]
    rfl

theorem namesBackend_of_managed {spec : MCPGClusterSpec} (managed : spec.managed.isSome = true)
    (clusterName ns : String) :
    spec.NamesBackend (spec.renderClusterBlockWith clusterName ns) := by
  have backend := effectiveBackend_of_managed managed
  have external : spec.isEffectivelySingleNode = false := by
    rw [isEffectivelySingleNode, backend]
    rfl
  apply namesBackend_of_kind
  · rw [renderClusterBlockWith_of_managed managed, get?_renderManagedClusterBlock_kind, backend]
    rfl
  · intro unmanaged
    rw [unmanaged] at managed
    cases managed
  · intro single
    rw [external] at single
    cases single

/-- The block names the backend of the operator exactly when the coordinator
is managed or in-process, or when the configuration does not bring another
`kind` along. -/
theorem namesBackend_renderClusterBlockWith_iff (spec : MCPGClusterSpec)
    (clusterName operatorNamespace : String) :
    spec.NamesBackend (spec.renderClusterBlockWith clusterName operatorNamespace) ↔
      spec.managed.isSome = true ∨ spec.backend.isSingleNode = true ∨
        ∀ value, spec.config.get? "kind" = some value → value = .string spec.backend.configKind := by
  by_cases managed : spec.managed.isSome = true
  · exact iff_of_true (namesBackend_of_managed managed _ _) (Or.inl managed)
  · have unmanaged : spec.managed = none := by simpa using managed
    have backend := effectiveBackend_of_unmanaged unmanaged
    have single : spec.isEffectivelySingleNode = spec.backend.isSingleNode := by
      rw [isEffectivelySingleNode, backend]
    rw [renderClusterBlockWith_of_unmanaged unmanaged]
    constructor
    · intro names
      have kind := names.kind
      rw [get?_renderClusterBlock, if_pos rfl, backend] at kind
      apply Or.inr
      by_cases inProcess : spec.backend.isSingleNode = true
      · exact Or.inl inProcess
      · apply Or.inr
        intro value given
        rw [if_neg inProcess, given, Option.some_or, Option.some.injEq] at kind
        exact kind
    · intro harmless
      apply namesBackend_of_kind
      · rw [get?_renderClusterBlock, if_pos rfl, backend]
        by_cases inProcess : spec.backend.isSingleNode = true
        · rw [if_pos inProcess, Option.none_or]
        · rw [if_neg inProcess]
          have agrees := (harmless.resolve_left managed).resolve_left inProcess
          cases given : spec.config.get? "kind" with
          | none => rfl
          | some value => rw [agrees value given, Option.some_or]
      · intro _ external key other
        rw [single] at external
        rw [get?_renderClusterBlock, external, if_neg other, Option.or_none]
        rfl
      · intro inProcess key other
        rw [single] at inProcess
        rw [get?_renderClusterBlock, if_pos inProcess, if_neg other]
        rfl

/-- A Redis binding whose configuration carries the key `kind`. -/
def kindCollision : MCPGClusterSpec :=
  { (default : MCPGClusterSpec) with
    backend := .redis
    config := .ofEntries [("kind", .string "nats"), ("url", .string "rediss://cache:6379")] }

/-- The operator takes the binding for Redis, the gateway is shown NATS. -/
theorem not_namesBackend_kindCollision :
    ¬ kindCollision.NamesBackend (kindCollision.renderClusterBlockWith "shared" "mcpg-system") := by
  intro names
  have shown : blockKind (kindCollision.renderClusterBlockWith "shared" "mcpg-system") = some "nats" := by
    decide
  have believed : blockKind (kindCollision.renderClusterBlockWith "shared" "mcpg-system") = some "redis" :=
    congrArg (fun value => value.bind Value.asStr) names.kind
  exact absurd (shown.symm.trans believed) (by decide)

end MCPGClusterSpec

end McpgOperatorApi
