import McpgOperatorApi.V1alpha1.Gateway
import McpgOperatorApi.Text.Strings

namespace McpgOperatorApi

open Collections Serde Text

/-!
# Coordinator bindings

A cluster names the coordination backend that gateways bind to.  Either the
spec points at an existing coordinator through `backend` and `config`, or the
operator provisions a managed one.  In both cases the operator renders a
`cluster:` block for the gateway configuration.
-/

/-! ## Managed objects -/

def managedStateKeyEnv : String := "MCPG_CLUSTER_STATE_KEY"

def managedNatsTokenEnv : String := "MCPG_CLUSTER_NATS_TOKEN"

def managedNatsCaEnv : String := "MCPG_CLUSTER_NATS_CA"

def managedNodeIdEnv : String := "POD_NAME"

def managedNatsClientPort : Int32 := 4222

/-- Client Service name of a managed coordinator. -/
def managedNatsServiceName (cluster : String) : String := cluster ++ "-nats"

/-- Headless Service name of a managed coordinator. -/
def managedNatsHeadlessServiceName (cluster : String) : String := cluster ++ "-nats-headless"

/-- StatefulSet name of a managed coordinator. -/
def managedNatsStatefulsetName (cluster : String) : String := cluster ++ "-nats"

/-- ConfigMap name of a managed coordinator. -/
def managedNatsConfigName (cluster : String) : String := cluster ++ "-nats-config"

/-- Certificate and TLS Secret name of a managed coordinator. -/
def managedNatsTlsSecretName (cluster : String) : String := cluster ++ "-nats-tls"

/-- Coordination Secret name of a managed coordinator. -/
def managedCoordinationSecretName (cluster : String) : String := cluster ++ "-coordination"

/-! ## Backends -/

/-- Supported coordination backends; the first is the default. -/
inductive ClusterBackend where
  | singleNode
  | redis
  | nats
deriving DecidableEq, Inhabited

namespace ClusterBackend

instance : UnitEnum ClusterBackend where
  variants := [singleNode, redis, nats]
  variant
    | singleNode => snakeCase "SingleNode"
    | redis => snakeCase "Redis"
    | nats => snakeCase "Nats"
  listed backend := by cases backend <;> decide
  distinct := by decide

/-- The `kind` that the gateway configuration expects. -/
def configKind : ClusterBackend → String
  | singleNode => "single_node"
  | redis => "redis"
  | nats => "nats"

/-- The plugin that the gateway must load for this backend. -/
def pluginId : ClusterBackend → Option String
  | singleNode => none
  | redis => some "dev.mcpg.cluster.redis"
  | nats => some "dev.mcpg.cluster.nats"

def isSingleNode : ClusterBackend → Bool
  | singleNode => true
  | _ => false

end ClusterBackend

/-! ## Resource shapes -/

/-- A backend credential projected into bound gateway pods. -/
structure ClusterCredentialRef where
  name : String
  secretName : String
  key : Option String
deriving Inhabited

instance : Derive ClusterCredentialRef where
  Row := _
  fields := .required "name" <| .required "secret_name" <| .optional "key" .nil
  toRow x := (x.name, x.secretName, x.key, ())
  ofRow := fun (name, secretName, key, ()) =>
    { name, secretName, key }

instance : DistinctKeys ClusterCredentialRef where

instance : RoundTrips ClusterCredentialRef := roundTrips_of_lossless _

/-- The file-store volume of a managed coordinator. -/
structure ManagedStorage where
  size : Option String
  storageClassName : Option String
deriving Inhabited

instance : Derive ManagedStorage where
  Row := _
  fields := .optional "size" <| .optional "storage_class_name" .nil
  toRow x := (x.size, x.storageClassName, ())
  ofRow := fun (size, storageClassName, ()) =>
    { size, storageClassName }

instance : DistinctKeys ManagedStorage where

instance : RoundTrips ManagedStorage := roundTrips_of_lossless _

def defaultIssuerKind : String := "Issuer"

def defaultIssuerGroup : String := "cert-manager.io"

/-- Reference to a certificate issuer. -/
structure ManagedIssuerRef where
  name : String
  kind : String
  group : String

/-- The default is written by hand, with the same values that the wire uses. -/
instance : Inhabited ManagedIssuerRef := ⟨"", defaultIssuerKind, defaultIssuerGroup⟩

instance : Derive ManagedIssuerRef where
  Row := _
  fields := .required "name" <| .defaultedTo defaultIssuerKind "kind" <|
    .defaultedTo defaultIssuerGroup "group" .nil
  toRow x := (x.name, x.kind, x.group, ())
  ofRow := fun (name, kind, group, ()) =>
    { name, kind, group }

instance : DistinctKeys ManagedIssuerRef where

instance : RoundTrips ManagedIssuerRef := roundTrips_of_lossless _

/-- TLS of a managed coordinator. -/
structure ManagedCoordinatorTls where
  issuerRef : Option ManagedIssuerRef
deriving Inhabited

instance : Derive ManagedCoordinatorTls where
  Row := _
  fields := .optional "issuer_ref" .nil
  toRow x := (x.issuerRef, ())
  ofRow := fun (issuerRef, ()) =>
    { issuerRef }

instance : DistinctKeys ManagedCoordinatorTls where

instance : RoundTrips ManagedCoordinatorTls := roundTrips_of_lossless _

/-- A coordinator that the operator provisions itself. -/
structure ManagedCoordinator where
  image : Option String
  storage : ManagedStorage
  tls : Option ManagedCoordinatorTls
  replicas : Option UInt8
  resources : Option GatewayResourceRequirements
deriving Inhabited

instance : Derive ManagedCoordinator where
  Row := _
  fields := .optional "image" <| .defaulted "storage" <| .optional "tls" <|
    .optional "replicas" <| .optional "resources" .nil
  toRow x := (x.image, x.storage, x.tls, x.replicas, x.resources, ())
  ofRow := fun (image, storage, tls, replicas, resources, ()) =>
    { image, storage, tls, replicas, resources }

instance : DistinctKeys ManagedCoordinator where

instance : RoundTrips ManagedCoordinator := roundTrips_of_lossless _

/-- A coordination-backend binding. -/
structure MCPGClusterSpec where
  backend : ClusterBackend
  config : BTreeMap String Value
  pluginRef : Option LocalObjectReference
  credentialRefs : List ClusterCredentialRef
  managed : Option ManagedCoordinator
deriving Inhabited

instance : Derive MCPGClusterSpec where
  Row := _
  fields := .defaulted "backend" <| .map "config" <| .optional "plugin_ref" <|
    .list "credential_refs" <| .optional "managed" .nil
  toRow x := (x.backend, x.config, x.pluginRef, x.credentialRefs, x.managed, ())
  ofRow := fun (backend, config, pluginRef, credentialRefs, managed, ()) =>
    { backend, config, pluginRef, credentialRefs, managed }

instance : DistinctKeys MCPGClusterSpec where

instance : RoundTrips MCPGClusterSpec := roundTrips_of_lossless _

/-- Observed state of a coordinator binding. -/
structure MCPGClusterStatus (τ : Type) where
  conditions : List (Condition τ)
  observedGeneration : Option Int64
  pluginId : Option String
  boundGateways : Option Int64
  configHash : Option String
  managedReady : Option Bool
  natsReadyReplicas : Option Int32
  coordinationSecret : Option String
  lastReconcileTime : Option τ
deriving Inhabited

instance {τ : Type} [Rfc3339 τ] : Derive (MCPGClusterStatus τ) where
  Row := _
  fields := .list "conditions" <| .optional "observed_generation" <| .optional "plugin_id" <|
    .optional "bound_gateways" <| .optional "config_hash" <| .optional "managed_ready" <|
    .optional "nats_ready_replicas" <| .optional "coordination_secret" <|
    .optional "last_reconcile_time" .nil
  toRow x := (x.conditions, x.observedGeneration, x.pluginId, x.boundGateways, x.configHash,
    x.managedReady, x.natsReadyReplicas, x.coordinationSecret, x.lastReconcileTime, ())
  ofRow := fun (conditions, observedGeneration, pluginId, boundGateways, configHash,
    managedReady, natsReadyReplicas, coordinationSecret, lastReconcileTime, ()) =>
    { conditions, observedGeneration, pluginId, boundGateways, configHash, managedReady,
      natsReadyReplicas, coordinationSecret, lastReconcileTime }

instance {τ : Type} [Rfc3339 τ] : DistinctKeys (MCPGClusterStatus τ) where

instance {τ : Type} [Rfc3339 τ] [LawfulRfc3339 τ] : RoundTrips (MCPGClusterStatus τ) :=
  roundTrips_of_lossless _

/-! ## Rendering -/

namespace MCPGClusterSpec

/-- The backend that the cluster provides: a managed coordinator is always
NATS, whatever the raw field says. -/
def effectiveBackend (spec : MCPGClusterSpec) : ClusterBackend :=
  if spec.managed.isSome then .nats else spec.backend

def isEffectivelySingleNode (spec : MCPGClusterSpec) : Bool :=
  spec.effectiveBackend.isSingleNode

/-- Rendered replica count of a managed coordinator, capped at one. -/
def managedNatsReplicas (spec : MCPGClusterSpec) : Option Int32 :=
  spec.managed.map fun m => (min (max (m.replicas.getD 1) 1) 1).toUInt32.toInt32

/-- A managed coordinator asks for more replicas than are rendered. -/
def managedReplicasCapped (spec : MCPGClusterSpec) : Bool :=
  (spec.managed.bind fun m => m.replicas).any fun r => r > 1

/-- A managed coordinator asks for TLS: it names an issuer that is not blank. -/
def managedTlsEnabled (spec : MCPGClusterSpec) : Bool :=
  ((spec.managed.bind fun m => m.tls).bind fun t => t.issuerRef).any fun r => !(trim r.name).isEmpty

/-- A reference to an environment variable in a gateway configuration. -/
def envReference (name : String) : String := "$\x7benv." ++ name ++ "\x7d"

/-- The `cluster:` block of a managed coordinator. -/
def renderManagedClusterBlock (spec : MCPGClusterSpec) (clusterName operatorNamespace : String) :
    Value :=
  let tls := spec.managedTlsEnabled
  let scheme := if tls then "tls" else "nats"
  let fqdn := scheme ++ "://" ++ managedNatsServiceName clusterName ++ "." ++ operatorNamespace ++
    ".svc.cluster.local:" ++ toString managedNatsClientPort
  let map : BTreeMap String Value := .empty
  let map := map.insert "kind" (.string "nats")
  let map := map.insert "servers" (.array [.string fqdn])
  let map := map.insert "state_encryption_key_env" (.string managedStateKeyEnv)
  let map := map.insert "auth" (.ofEntries
    [("method", .string "token"), ("token", .string (envReference managedNatsTokenEnv))])
  let map := map.insert "node" (.ofEntries [("id", .string (envReference managedNodeIdEnv))])
  let map := map.insert "jetstream" (.ofEntries
    [("replicas", .number (.integer 1 (by decide))), ("storage", .string "file")])
  let map :=
    if tls then
      map.insert "tls" (.ofEntries
        [("require_tls", .bool true), ("ca_cert", .string (envReference managedNatsCaEnv))])
    else
      (map.insert "allow_insecure_transport" (.bool true)).insert "tls"
        (.ofEntries [("require_tls", .bool false)])
  .ofMap map

/-- The `cluster:` block of an existing coordinator: the kind of the backend,
and next to it the entries of the configuration map. -/
def renderClusterBlock (spec : MCPGClusterSpec) : Value :=
  let map : BTreeMap String Value := .empty
  let map := map.insert "kind" (.string spec.backend.configKind)
  .ofMap (if spec.backend.isSingleNode then map else map.insertAll spec.config.entries)

/-- The `cluster:` block, managed or not. -/
def renderClusterBlockWith (spec : MCPGClusterSpec) (clusterName operatorNamespace : String) :
    Value :=
  if spec.managed.isSome then spec.renderManagedClusterBlock clusterName operatorNamespace
  else spec.renderClusterBlock

/-- Why the coordinator is rejected at admission: it would be plaintext, and
the configuration does not opt out of transport security. -/
def insecureTransportReason (spec : MCPGClusterSpec) : Option String :=
  if spec.backend.isSingleNode then none
  else
    let optedOut :=
      ((spec.config.get? "allow_insecure_transport").bind Value.asBool).getD false
    if optedOut then none
    else
      match spec.backend with
      | .redis =>
          (((spec.config.get? "url").bind Value.asStr).filter
            fun u => startsWith (trimStart u) "redis://").map fun _ =>
              "the redis `url` uses the plaintext `redis://` scheme (use `rediss://`)"
      | .nats =>
          (((spec.config.get? "tls").bind fun t => t.get? "require_tls").bind Value.asBool).filter
            (fun requireTls => !requireTls) |>.map fun _ =>
              "nats `tls.require_tls` is set to `false` (plaintext)"
      | .singleNode => none

end MCPGClusterSpec

end McpgOperatorApi
