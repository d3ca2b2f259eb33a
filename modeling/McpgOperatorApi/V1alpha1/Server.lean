import McpgOperatorApi.V1alpha1.Plugin
import McpgOperatorApi.Text.Strings

namespace McpgOperatorApi

open Collections Serde Text

/-!
# Servers

A server workload that the operator runs, with optional federation.  The
effective values below fill in the documented defaults.
-/

/-- Verification of a server image. -/
structure ServerVerify where
  cosignIdentity : CosignIdentity
deriving Inhabited

instance : Derive ServerVerify where
  Row := _
  fields := .required "cosign_identity" .nil
  toRow x := (x.cosignIdentity, ())
  ofRow := fun (cosignIdentity, ()) =>
    { cosignIdentity }

instance : DistinctKeys ServerVerify where

instance : RoundTrips ServerVerify := roundTrips_of_lossless _

/-- Same-namespace gateway reference. -/
structure ServerGatewayRef where
  name : String
deriving Inhabited

instance : Derive ServerGatewayRef where
  Row := _
  fields := .required "name" .nil
  toRow x := (x.name, ())
  ofRow := fun (name, ()) =>
    { name }

instance : DistinctKeys ServerGatewayRef where

instance : RoundTrips ServerGatewayRef := roundTrips_of_lossless _

/-- Federation of a server into a gateway. -/
structure ServerFederate where
  gatewayRef : ServerGatewayRef
  name : Option String
  toolPrefix : Option String
  governance : Option Value
  «import» : Option Value
  auth : Option Value
deriving Inhabited

instance : Derive ServerFederate where
  Row := _
  fields := .required "gateway_ref" <| .optional "name" <| .optional "tool_prefix" <|
    .optional "governance" <| .optional "import" <| .optional "auth" .nil
  toRow x := (x.gatewayRef, x.name, x.toolPrefix, x.governance, x.«import», x.auth, ())
  ofRow := fun (gatewayRef, name, toolPrefix, governance, «import», auth, ()) =>
    { gatewayRef, name, toolPrefix, governance, «import», auth }

instance : DistinctKeys ServerFederate where

/-- An in-cluster server workload with optional federation. -/
structure MCPGServerSpec where
  image : String
  replicas : Option Int32
  port : Option Int32
  path : Option String
  env : BTreeMap String String
  envFromSecrets : List String
  resources : Option GatewayResourceRequirements
  serviceAccountName : Option String
  imagePullSecrets : List LocalObjectReference
  verify : Option ServerVerify
  federate : Option ServerFederate
deriving Inhabited

instance : Derive MCPGServerSpec where
  Row := _
  fields := .required "image" <| .optional "replicas" <| .optional "port" <| .optional "path" <|
    .map "env" <| .list "env_from_secrets" <| .optional "resources" <|
    .optional "service_account_name" <| .list "image_pull_secrets" <| .optional "verify" <|
    .optional "federate" .nil
  toRow x := (x.image, x.replicas, x.port, x.path, x.env, x.envFromSecrets, x.resources,
    x.serviceAccountName, x.imagePullSecrets, x.verify, x.federate, ())
  ofRow := fun (image, replicas, port, path, env, envFromSecrets, resources, serviceAccountName,
    imagePullSecrets, verify, federate, ()) =>
    { image, replicas, port, path, env, envFromSecrets, resources, serviceAccountName,
      imagePullSecrets, verify, federate }

instance : DistinctKeys MCPGServerSpec where

/-- Observed state of a server. -/
structure MCPGServerStatus (τ : Type) where
  conditions : List (Condition τ)
  observedGeneration : Option Int64
  readyReplicas : Option Int32
  endpoint : Option String
  boundGateway : Option String
  lastReconcileTime : Option τ
deriving Inhabited

instance {τ : Type} [Rfc3339 τ] : Derive (MCPGServerStatus τ) where
  Row := _
  fields := .list "conditions" <| .optional "observed_generation" <|
    .optional "ready_replicas" <| .optional "endpoint" <| .optional "bound_gateway" <|
    .optional "last_reconcile_time" .nil
  toRow x := (x.conditions, x.observedGeneration, x.readyReplicas, x.endpoint, x.boundGateway,
    x.lastReconcileTime, ())
  ofRow := fun (conditions, observedGeneration, readyReplicas, endpoint, boundGateway,
    lastReconcileTime, ()) =>
    { conditions, observedGeneration, readyReplicas, endpoint, boundGateway, lastReconcileTime }

instance {τ : Type} [Rfc3339 τ] : DistinctKeys (MCPGServerStatus τ) where

instance {τ : Type} [Rfc3339 τ] [LawfulRfc3339 τ] : RoundTrips (MCPGServerStatus τ) :=
  roundTrips_of_lossless _

namespace MCPGServerSpec

/-- Effective replica count. -/
def effectiveReplicas (spec : MCPGServerSpec) : Int32 :=
  max (spec.replicas.getD 1) 0

/-- Effective container port. -/
def effectivePort (spec : MCPGServerSpec) : Int32 :=
  spec.port.getD 8080

/-- Effective endpoint path, always behind a slash. -/
def effectivePath (spec : MCPGServerSpec) : String :=
  let p := spec.path.getD "/mcp"
  if startsWith p "/" then p else "/" ++ p

/-- Federation name, by default that of the object. -/
def federationName (spec : MCPGServerSpec) (objectName : String) : String :=
  (spec.federate.bind fun f => f.name).getD objectName

/-- The in-cluster endpoint of the rendered Service. -/
def endpoint (spec : MCPGServerSpec) (serviceName ns : String) : String :=
  "http://" ++ serviceName ++ "." ++ ns ++ ".svc.cluster.local:" ++
    toString spec.effectivePort ++ spec.effectivePath

end MCPGServerSpec

end McpgOperatorApi
