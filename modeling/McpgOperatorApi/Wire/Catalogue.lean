import McpgOperatorApi.Serde.Omission
import McpgOperatorApi.V1alpha1.Cluster
import McpgOperatorApi.V1alpha1.PluginMirror
import McpgOperatorApi.V1alpha1.PluginSet
import McpgOperatorApi.V1alpha1.RevocationList
import McpgOperatorApi.V1alpha1.Route
import McpgOperatorApi.V1alpha1.Server
import McpgOperatorApi.V1alpha1.Tenant

namespace McpgOperatorApi

open Serde

/-!
# The record types of the wire format

A record type enters the list below together with the fields that *drift*: a
missing key of such a field stands for another value than the one the default
record has.  Almost every type drifts nowhere, and the list would not be
accepted otherwise, because each entry carries the proof that its drifting
fields are exactly the ones it names.
-/

/-- A record type, its name in the source, and its drifting fields. -/
structure WireType : Type 1 where
  name : String
  Carrier : Type
  [derive : Derive Carrier]
  [distinctKeys : DistinctKeys Carrier]
  [inhabited : Inhabited Carrier]
  drifts : List String
  drifts_exact : ∀ key, SteadyAt Carrier key ↔ key ∉ drifts

attribute [instance] WireType.derive WireType.distinctKeys WireType.inhabited

namespace WireType

/-- A type without drifting fields. -/
def steady (name : String) (T : Type) [Derive T] [DistinctKeys T] [Inhabited T]
    (same : (Derive.fields (T := T)).standIns (Derive.toRow default) = Derive.toRow default := by rfl) :
    WireType where
  name := name
  Carrier := T
  drifts := []
  drifts_exact key :=
    iff_of_true (steadyAt_of_standIns T same key) List.not_mem_nil

/-- On the wire a gateway has one replica, by default none. -/
def gatewaySpec : WireType where
  name := "MCPGGatewaySpec"
  Carrier := MCPGGatewaySpec
  drifts := ["replicas"]
  drifts_exact := by
    apply steadyAt_iff_of_single _ rfl
    intro steady
    exact absurd (steady.2.1 rfl) (by decide)

/-- On the wire the key has a name, by default it is empty. -/
def signingKeyRef : WireType where
  name := "SigningKeyRef"
  Carrier := SigningKeyRef
  drifts := ["key"]
  drifts_exact := by
    apply steadyAt_iff_of_single _ rfl
    intro steady
    exact absurd (steady.2.1 rfl) (by decide)

/-- On the wire an entry is enabled and enforced, by default neither. -/
def pluginSetEntry : WireType where
  name := "MCPGPluginSetEntry"
  Carrier := MCPGPluginSetEntry
  drifts := ["enabled", "enforce"]
  drifts_exact := by
    apply steadyAt_iff_of_reset _ rfl
    intro key listed steady
    rcases List.mem_cons.mp listed with rfl | later
    · exact absurd (steady.2.2.1 rfl) (by decide)
    · rw [List.mem_singleton.mp later] at steady
      exact absurd (steady.2.2.2.1 rfl) (by decide)

section Timestamps

variable (τ : Type) [Rfc3339 τ] [Inhabited τ]

/-- On the wire the format version is one, by default zero. -/
def revocationListSpec : WireType where
  name := "MCPGRevocationListSpec"
  Carrier := MCPGRevocationListSpec τ
  drifts := ["version"]
  drifts_exact := by
    apply steadyAt_iff_of_single _ rfl
    intro steady
    have clash : (1 : UInt8) = 0 := steady.1 rfl
    exact absurd clash (by decide)

/-! ## The types of each module -/

def gatewayTypes : List WireType :=
  [ gatewaySpec,
    steady "GatewayCloud" GatewayCloud,
    steady "PluginSetRef" PluginSetRef,
    steady "RevocationListRef" RevocationListRef,
    steady "ClusterRef" ClusterRef,
    steady "NamespacedReference" NamespacedReference,
    steady "GatewayImage" GatewayImage,
    steady "GatewayResourceRequirements" GatewayResourceRequirements,
    steady "GatewayService" GatewayService,
    steady "GatewayIngress" GatewayIngress,
    steady "GatewayIngressHost" GatewayIngressHost,
    steady "GatewayIngressPath" GatewayIngressPath,
    steady "GatewayIngressTls" GatewayIngressTls,
    steady "GatewayWorkloadIdentity" GatewayWorkloadIdentity,
    steady "AwsWorkloadIdentity" AwsWorkloadIdentity,
    steady "GcpWorkloadIdentity" GcpWorkloadIdentity,
    steady "AzureWorkloadIdentity" AzureWorkloadIdentity,
    steady "SpiffeWorkloadIdentity" SpiffeWorkloadIdentity,
    steady "GatewayScheduling" GatewayScheduling,
    steady "TopologySpread" TopologySpread,
    steady "GatewayProbes" GatewayProbes,
    steady "GatewayProbe" GatewayProbe,
    steady "GatewayNetworkPolicy" GatewayNetworkPolicy,
    steady "PodDisruptionBudgetSpec" PodDisruptionBudgetSpec,
    steady "HorizontalAutoscaler" HorizontalAutoscaler,
    steady "HorizontalAutoscalerMetric" HorizontalAutoscalerMetric,
    steady "GatewayMonitoring" GatewayMonitoring,
    steady "ServiceMonitorSpec" ServiceMonitorSpec,
    steady "PrometheusRuleSpec" PrometheusRuleSpec,
    steady "SecretMount" SecretMount,
    steady "LocalObjectReference" LocalObjectReference,
    steady "MCPGGatewayStatus" (MCPGGatewayStatus τ) ]

def pluginTypes : List WireType :=
  [ steady "MCPGPluginSpec" MCPGPluginSpec,
    steady "OciImageRef" OciImageRef,
    steady "PluginTrust" PluginTrust,
    signingKeyRef,
    steady "CosignIdentity" CosignIdentity,
    steady "SlsaProvenance" SlsaProvenance,
    steady "MCPGPluginStatus" (MCPGPluginStatus τ) ]

def pluginSetTypes : List WireType :=
  [ steady "MCPGPluginSetSpec" MCPGPluginSetSpec,
    pluginSetEntry,
    steady "CapabilityGrant" CapabilityGrant,
    steady "MCPGPluginSetStatus" (MCPGPluginSetStatus τ),
    steady "FailedEntry" FailedEntry ]

def revocationListTypes : List WireType :=
  [ revocationListSpec τ,
    steady "RevocationEntry" (RevocationEntry τ),
    steady "MCPGRevocationListStatus" (MCPGRevocationListStatus τ) ]

def clusterTypes : List WireType :=
  [ steady "MCPGClusterSpec" MCPGClusterSpec,
    steady "ManagedCoordinator" ManagedCoordinator,
    steady "ManagedStorage" ManagedStorage,
    steady "ManagedCoordinatorTls" ManagedCoordinatorTls,
    steady "ManagedIssuerRef" ManagedIssuerRef,
    steady "ClusterCredentialRef" ClusterCredentialRef,
    steady "MCPGClusterStatus" (MCPGClusterStatus τ) ]

def routeTypes : List WireType :=
  [ steady "MCPGRouteSpec" MCPGRouteSpec,
    steady "GatewayRef" GatewayRef,
    steady "RouteMatch" RouteMatch,
    steady "RouteToolRef" RouteToolRef,
    steady "MCPGRouteStatus" (MCPGRouteStatus τ) ]

def pluginMirrorTypes : List WireType :=
  [ steady "MCPGPluginMirrorSpec" MCPGPluginMirrorSpec,
    steady "MirrorEndpoint" MirrorEndpoint,
    steady "MirrorService" MirrorService,
    steady "MirrorUpstream" MirrorUpstream,
    steady "MirrorAuth" MirrorAuth,
    steady "MirrorSecretRef" MirrorSecretRef,
    steady "MCPGPluginMirrorStatus" (MCPGPluginMirrorStatus τ) ]

def tenantTypes : List WireType :=
  [ steady "MCPGTenantSpec" MCPGTenantSpec,
    steady "AllowedPlugin" AllowedPlugin,
    steady "TenantQuotas" TenantQuotas,
    steady "TenantIdentityAttribute" TenantIdentityAttribute,
    steady "MCPGTenantStatus" (MCPGTenantStatus τ),
    steady "TenantObservedCounts" TenantObservedCounts ]

def serverTypes : List WireType :=
  [ steady "MCPGServerSpec" MCPGServerSpec,
    steady "ServerVerify" ServerVerify,
    steady "ServerFederate" ServerFederate,
    steady "ServerGatewayRef" ServerGatewayRef,
    steady "MCPGServerStatus" (MCPGServerStatus τ) ]

/-- The record types of the crate. -/
def all : List WireType :=
  steady "Condition" (Condition τ) :: gatewayTypes τ ++ pluginTypes τ ++ pluginSetTypes τ ++
    revocationListTypes τ ++ clusterTypes τ ++ routeTypes τ ++ pluginMirrorTypes τ ++
    tenantTypes τ ++ serverTypes τ

variable {τ} in
/-- A type that is found by its name is one of the crate. -/
theorem mem_all_of_find? (name : String) {type : WireType}
    (found : (all τ).find? (fun t => t.name == name) = some type) : type ∈ all τ :=
  List.mem_of_find?_eq_some found

end Timestamps

end WireType

/-! ## Instants to evaluate the model on -/

/-- One of the first ten seconds of 1970. -/
structure EarlySecond where
  second : Fin 10
deriving DecidableEq, Inhabited

instance : Rfc3339 EarlySecond where
  toRfc3339 t := "1970-01-01T00:00:0" ++ toString t.second.val ++ "Z"
  parseFromRfc3339 s := ((List.finRange 10).find? fun second =>
    "1970-01-01T00:00:0" ++ toString second.val ++ "Z" == s).map EarlySecond.mk

instance : LawfulRfc3339 EarlySecond where
  parse_toRfc3339 := by
    rintro ⟨second⟩
    revert second
    decide

end McpgOperatorApi
