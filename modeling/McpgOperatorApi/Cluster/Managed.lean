import McpgOperatorApi.Cluster.Transport
import McpgOperatorApi.Text.Concatenation

namespace McpgOperatorApi

open Collections Serde Text

/-!
# Managed coordinators

A managed coordinator overrides the backend and the configuration of its spec.
The block that the gateway is shown depends on nothing but the TLS switch and
the two names, and it determines all three.  The transport check, however,
reads the overridden fields.
-/

namespace MCPGClusterSpec

/-! ## What the block determines -/

/-- No field of the spec but the TLS switch reaches the block. -/
theorem renderManagedClusterBlock_congr {s t : MCPGClusterSpec}
    (tls : s.managedTlsEnabled = t.managedTlsEnabled) (clusterName ns : String) :
    s.renderManagedClusterBlock clusterName ns = t.renderManagedClusterBlock clusterName ns := by
  simp only [renderManagedClusterBlock, tls]

/-- The address determines both names, however the cluster is called: the
namespace stands behind the last dot in front of the fixed end. -/
theorem managedServerUrl_injective {tls : Bool} {c d m n : String} (mFree : '.' ∉ m.toList)
    (nFree : '.' ∉ n.toList) (same : managedServerUrl tls c m = managedServerUrl tls d n) :
    c = d ∧ m = n := by
  have glued : managedNatsServiceName c ++ "." ++ m = managedNatsServiceName d ++ "." ++ n := by
    unfold managedServerUrl at same
    simp only [String.append_assoc, String.append_right_inj] at same
    simpa only [← String.append_assoc, String.append_left_inj] using same
  have chars : (managedNatsServiceName c).toList ++ '.' :: m.toList =
      (managedNatsServiceName d).toList ++ '.' :: n.toList := by
    have lists := congrArg String.toList glued
    simpa using lists
  rcases cut_last mFree nFree chars with ⟨services, namespaces⟩
  have names := String.toList_injective services
  exact ⟨(String.append_left_inj _).mp names, String.toList_injective namespaces⟩

/-- The four places of a managed block that show the transport agree. -/
structure PostureAgrees (block : Value) : Prop where
  /-- There is one server, and its scheme is `tls` when TLS is required. -/
  scheme : ∃ url, block.get? "servers" = some (.array [.string url]) ∧
    (startsWith url "tls://" = true ↔
      (block.get? "tls").bind (fun part => part.get? "require_tls") = some (.bool true))
  /-- The CA certificate is there when TLS is required. -/
  caCert : (block.get? "tls").bind (fun part => part.get? "require_tls") = some (.bool true) ↔
    ((block.get? "tls").bind (fun part => part.get? "ca_cert")).isSome = true
  /-- The opt-out is there otherwise. -/
  optOut : ((block.get? "tls").bind (fun part => part.get? "ca_cert")).isSome = true ↔
    block.get? "allow_insecure_transport" = none

theorem startsWith_managedServerUrl_iff (tls : Bool) (clusterName ns : String) :
    startsWith (managedServerUrl tls clusterName ns) "tls://" = true ↔ tls = true := by
  cases tls <;> simp [startsWith, managedServerUrl, List.isPrefixOf]

theorem postureAgrees_renderManagedClusterBlock (spec : MCPGClusterSpec) (clusterName ns : String) :
    PostureAgrees (spec.renderManagedClusterBlock clusterName ns) := by
  have url := startsWith_managedServerUrl_iff spec.managedTlsEnabled clusterName ns
  have required : ((spec.renderManagedClusterBlock clusterName ns).get? "tls").bind
      (fun part => part.get? "require_tls") = some (.bool spec.managedTlsEnabled) := by
    rw [get?_renderManagedClusterBlock_tls, Option.bind_some, get?_managedTlsPart_requireTls]
  have caCert : ((spec.renderManagedClusterBlock clusterName ns).get? "tls").bind
      (fun part => part.get? "ca_cert") = if spec.managedTlsEnabled then
        some (.string (envReference managedNatsCaEnv)) else none := by
    rw [get?_renderManagedClusterBlock_tls, Option.bind_some, get?_managedTlsPart_caCert]
  refine ⟨⟨_, get?_renderManagedClusterBlock_servers spec clusterName ns, url.trans ?_⟩, ?_, ?_⟩
  · rw [required, Option.some.injEq, Value.bool.injEq]
  · rw [required, caCert]
    cases spec.managedTlsEnabled <;> simp
  · rw [caCert, get?_renderManagedClusterBlock_optOut]
    cases spec.managedTlsEnabled <;> simp

/-- A managed block identifies its coordinator and the TLS switch and nothing
else, and it is consistent about the transport. -/
theorem renderClusterBlockWith_managed {s t : MCPGClusterSpec} (managedS : s.managed.isSome = true)
    (managedT : t.managed.isSome = true) (c d m n : String) :
    ('.' ∉ m.toList → '.' ∉ n.toList →
      (s.renderClusterBlockWith c m = t.renderClusterBlockWith d n ↔
        s.managedTlsEnabled = t.managedTlsEnabled ∧ c = d ∧ m = n)) ∧
      PostureAgrees (s.renderClusterBlockWith c m) := by
  rw [renderClusterBlockWith_of_managed managedS, renderClusterBlockWith_of_managed managedT]
  refine ⟨?_, postureAgrees_renderManagedClusterBlock s c m⟩
  intro mFree nFree
  constructor
  · intro same
    have optOut := congrArg (fun block => block.get? "allow_insecure_transport") same
    have servers := congrArg (fun block => block.get? "servers") same
    simp only [get?_renderManagedClusterBlock_optOut] at optOut
    simp only [get?_renderManagedClusterBlock_servers] at servers
    have tls : s.managedTlsEnabled = t.managedTlsEnabled := by
      cases first : s.managedTlsEnabled <;> cases second : t.managedTlsEnabled <;>
        simp [first, second] at optOut ⊢
    rw [tls] at servers
    have urls : managedServerUrl t.managedTlsEnabled c m = managedServerUrl t.managedTlsEnabled d n := by
      simpa using servers
    exact ⟨tls, managedServerUrl_injective mFree nFree urls⟩
  · rintro ⟨tls, rfl, rfl⟩
    exact renderManagedClusterBlock_congr tls c m

/-- A managed coordinator with the operator's choices throughout. -/
def managedPlain : MCPGClusterSpec :=
  { (default : MCPGClusterSpec) with managed := some default }

/-- A managed coordinator with an image of its own. -/
def managedPinned : MCPGClusterSpec :=
  { (default : MCPGClusterSpec) with
    managed := some { (default : ManagedCoordinator) with image := some "nats:2.14.8-alpine" } }

/-- A managed coordinator with certificates. -/
def managedSecured : MCPGClusterSpec :=
  { (default : MCPGClusterSpec) with
    managed := some { (default : ManagedCoordinator) with
      tls := some ⟨some { (default : ManagedIssuerRef) with name := "ca" }⟩ } }

/-- The block shows the certificates, and not the image. -/
theorem renderClusterBlockWith_managedPinned :
    managedPlain.renderClusterBlockWith "shared" "mcpg-system" =
        managedPinned.renderClusterBlockWith "shared" "mcpg-system" ∧
      managedPlain.renderClusterBlockWith "shared" "mcpg-system" ≠
        managedSecured.renderClusterBlockWith "shared" "mcpg-system" ∧
      PostureAgrees (managedSecured.renderClusterBlockWith "shared" "mcpg-system") := by
  have withPinned := (renderClusterBlockWith_managed (s := managedPlain) (t := managedPinned) rfl rfl
    "shared" "shared" "mcpg-system" "mcpg-system").1 (by decide) (by decide)
  have withSecured := (renderClusterBlockWith_managed (s := managedPlain) (t := managedSecured) rfl rfl
    "shared" "shared" "mcpg-system" "mcpg-system").1 (by decide) (by decide)
  refine ⟨withPinned.mpr ⟨rfl, rfl, rfl⟩, ?_, ?_⟩
  · intro same
    exact absurd (withSecured.mp same).1 (by decide)
  · exact (renderClusterBlockWith_managed (t := managedPlain) rfl rfl "shared" "shared" "mcpg-system"
      "mcpg-system").2

/-! ## The overridden fields -/

/-- The transport check judges the block that is rendered. -/
def JudgesRendered (spec : MCPGClusterSpec) : Prop :=
  ∀ clusterName operatorNamespace, spec.insecureTransportReason.isSome = true ↔
    Plaintext (spec.renderClusterBlockWith clusterName operatorNamespace) ∧
      ¬ OptsOut (spec.renderClusterBlockWith clusterName operatorNamespace).get?

/-- The checks do not tell two specs apart, and the transport check judges the
coordinator that is rendered. -/
structure IgnoresOverridden (s t : MCPGClusterSpec) : Prop where
  backend : s.effectiveBackend = t.effectiveBackend
  singleNode : s.isEffectivelySingleNode = t.isEffectivelySingleNode
  reason : s.insecureTransportReason = t.insecureTransportReason
  judges : s.JudgesRendered ∧ t.JudgesRendered
  /-- A plaintext block carries the opt-out. -/
  optOut : ∀ clusterName operatorNamespace,
    (Plaintext (s.renderClusterBlockWith clusterName operatorNamespace) →
      OptsOut (s.renderClusterBlockWith clusterName operatorNamespace).get?) ∧
    (Plaintext (t.renderClusterBlockWith clusterName operatorNamespace) →
      OptsOut (t.renderClusterBlockWith clusterName operatorNamespace).get?)

/-- The raw fields describe a plaintext coordinator only with the opt-out. -/
def RawFieldsSafe (spec : MCPGClusterSpec) : Prop :=
  PlaintextAs spec.backend.configKind spec.config.get? → OptsOut spec.config.get?

theorem insecureTransportReason_eq_none_iff (spec : MCPGClusterSpec) :
    spec.insecureTransportReason = none ↔ spec.RawFieldsSafe := by
  rw [← Option.not_isSome_iff_eq_none, isSome_insecureTransportReason_iff, not_and_not_right]
  rfl

theorem optsOut_of_plaintext {spec : MCPGClusterSpec} (managed : spec.managed.isSome = true)
    (clusterName ns : String)
    (plaintext : Plaintext (spec.renderClusterBlockWith clusterName ns)) :
    OptsOut (spec.renderClusterBlockWith clusterName ns).get? := by
  rw [renderClusterBlockWith_of_managed managed] at *
  exact optsOut_of_plaintext_managed spec clusterName ns plaintext

/-- For a managed coordinator, judging the block means to accept it. -/
theorem judgesRendered_iff {spec : MCPGClusterSpec} (managed : spec.managed.isSome = true) :
    spec.JudgesRendered ↔ spec.insecureTransportReason = none := by
  have accepted : ∀ clusterName ns, ¬ (Plaintext (spec.renderClusterBlockWith clusterName ns) ∧
      ¬ OptsOut (spec.renderClusterBlockWith clusterName ns).get?) := by
    intro clusterName ns refused
    exact refused.2 (optsOut_of_plaintext managed clusterName ns refused.1)
  rw [← Option.not_isSome_iff_eq_none]
  constructor
  · intro judges refused
    exact accepted "" "" ((judges "" "").mp refused)
  · intro quiet clusterName ns
    exact iff_of_false quiet (accepted clusterName ns)

/-- The checks ignore what a managed coordinator overrides exactly when the
overridden fields of neither spec describe a plaintext coordinator without the
opt-out. -/
theorem ignoresOverridden_iff {s t : MCPGClusterSpec} {m : ManagedCoordinator}
    (managedS : s.managed = some m) (managedT : t.managed = some m) :
    s.IgnoresOverridden t ↔ s.RawFieldsSafe ∧ t.RawFieldsSafe := by
  have sManaged : s.managed.isSome = true := by rw [managedS, Option.isSome_some]
  have tManaged : t.managed.isSome = true := by rw [managedT, Option.isSome_some]
  rw [← insecureTransportReason_eq_none_iff, ← insecureTransportReason_eq_none_iff]
  constructor
  · intro ignores
    exact ⟨(judgesRendered_iff sManaged).mp ignores.judges.1,
      (judgesRendered_iff tManaged).mp ignores.judges.2⟩
  · intro accepted
    rcases accepted with ⟨sAccepted, tAccepted⟩
    have backend : s.effectiveBackend = t.effectiveBackend :=
      (effectiveBackend_of_managed sManaged).trans (effectiveBackend_of_managed tManaged).symm
    refine
      { backend := backend
        singleNode := congrArg ClusterBackend.isSingleNode backend
        reason := sAccepted.trans tAccepted.symm
        judges := ⟨(judgesRendered_iff sManaged).mpr sAccepted,
          (judgesRendered_iff tManaged).mpr tAccepted⟩
        optOut := ?_ }
    intro clusterName ns
    exact ⟨optsOut_of_plaintext sManaged clusterName ns, optsOut_of_plaintext tManaged clusterName ns⟩

/-- A managed coordinator whose raw backend says NATS as well. -/
def managedOverNats : MCPGClusterSpec :=
  { managedPlain with backend := .nats }

theorem ignoresOverridden_managedOverNats : managedOverNats.IgnoresOverridden managedPlain := by
  apply (ignoresOverridden_iff rfl rfl).mpr
  constructor
  · intro plaintext
    rcases (plaintextAs_nats_iff _).mp plaintext with ⟨_, given, _⟩
    cases given
  · exact fun plaintext => absurd plaintext (not_plaintextAs_single_node _)

/-- A managed coordinator whose overridden fields describe a plaintext Redis. -/
def managedOverRedis : MCPGClusterSpec :=
  { managedPlain with
    backend := .redis
    config := .ofEntries [("url", .string "redis://cache:6379")] }

/-- The check refuses it for the fields that the coordinator overrides. -/
theorem not_ignoresOverridden_managedOverRedis :
    managedOverRedis.managed = managedPlain.managed ∧
      ¬ managedOverRedis.IgnoresOverridden managedPlain := by
  refine ⟨rfl, ?_⟩
  intro ignores
  exact absurd ignores.reason (by decide)

end MCPGClusterSpec

end McpgOperatorApi
