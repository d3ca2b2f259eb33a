import McpgOperatorApi.Conditions
import McpgOperatorApi.Text.Strings

namespace McpgOperatorApi

open Collections Serde Text

/-!
# Plugin mirrors

A mirror stands in for a public registry and rewrites references into it.
-/

/-- The coordinates of the mirror registry. -/
structure MirrorService where
  «namespace» : String
  name : String
  port : UInt16
  pathPrefix : Option String
deriving Inhabited

instance : Derive MirrorService where
  Row := _
  fields := .required "namespace" <| .required "name" <| .required "port" <|
    .optional "path_prefix" .nil
  toRow x := (x.«namespace», x.name, x.port, x.pathPrefix, ())
  ofRow := fun («namespace», name, port, pathPrefix, ()) =>
    { «namespace», name, port, pathPrefix }

instance : DistinctKeys MirrorService where

instance : RoundTrips MirrorService := roundTrips_of_lossless _

/-- The Service hosting the mirror registry. -/
structure MirrorEndpoint where
  service : MirrorService
  insecure : Bool
deriving Inhabited

instance : Derive MirrorEndpoint where
  Row := _
  fields := .required "service" <| .defaulted "insecure" .nil
  toRow x := (x.service, x.insecure, ())
  ofRow := fun (service, insecure, ()) =>
    { service, insecure }

instance : DistinctKeys MirrorEndpoint where

instance : RoundTrips MirrorEndpoint := roundTrips_of_lossless _

/-- The public registry and namespace that a mirror stands in for. -/
structure MirrorUpstream where
  registry : String
  «namespace» : String
deriving Inhabited

instance : Derive MirrorUpstream where
  Row := _
  fields := .required "registry" <| .required "namespace" .nil
  toRow x := (x.registry, x.«namespace», ())
  ofRow := fun (registry, «namespace», ()) =>
    { registry, «namespace» }

instance : DistinctKeys MirrorUpstream where

instance : RoundTrips MirrorUpstream := roundTrips_of_lossless _

/-- Reference to the Secret with the pull credentials. -/
structure MirrorSecretRef where
  secretName : String
  key : Option String
deriving Inhabited

instance : Derive MirrorSecretRef where
  Row := _
  fields := .required "secret_name" <| .optional "key" .nil
  toRow x := (x.secretName, x.key, ())
  ofRow := fun (secretName, key, ()) =>
    { secretName, key }

instance : DistinctKeys MirrorSecretRef where

instance : RoundTrips MirrorSecretRef := roundTrips_of_lossless _

/-- Pull credentials of a mirror. -/
structure MirrorAuth where
  secretRef : MirrorSecretRef
deriving Inhabited

instance : Derive MirrorAuth where
  Row := _
  fields := .required "secret_ref" .nil
  toRow x := (x.secretRef, ())
  ofRow := fun (secretRef, ()) =>
    { secretRef }

instance : DistinctKeys MirrorAuth where

instance : RoundTrips MirrorAuth := roundTrips_of_lossless _

/-- An in-cluster mirror of a public registry. -/
structure MCPGPluginMirrorSpec where
  endpoint : MirrorEndpoint
  upstream : MirrorUpstream
  auth : Option MirrorAuth
  resyncInterval : Option String
deriving Inhabited

instance : Derive MCPGPluginMirrorSpec where
  Row := _
  fields := .required "endpoint" <| .required "upstream" <| .optional "auth" <|
    .optional "resync_interval" .nil
  toRow x := (x.endpoint, x.upstream, x.auth, x.resyncInterval, ())
  ofRow := fun (endpoint, upstream, auth, resyncInterval, ()) =>
    { endpoint, upstream, auth, resyncInterval }

instance : DistinctKeys MCPGPluginMirrorSpec where

instance : RoundTrips MCPGPluginMirrorSpec := roundTrips_of_lossless _

/-- Observed state of a mirror. -/
structure MCPGPluginMirrorStatus (τ : Type) where
  conditions : List (Condition τ)
  observedGeneration : Option Int64
  reachable : Option Bool
  proxiedReferences : Option Int64
  endpointHost : Option String
  lastReconcileTime : Option τ
deriving Inhabited

instance {τ : Type} [Rfc3339 τ] : Derive (MCPGPluginMirrorStatus τ) where
  Row := _
  fields := .list "conditions" <| .optional "observed_generation" <| .optional "reachable" <|
    .optional "proxied_references" <| .optional "endpoint_host" <|
    .optional "last_reconcile_time" .nil
  toRow x := (x.conditions, x.observedGeneration, x.reachable, x.proxiedReferences,
    x.endpointHost, x.lastReconcileTime, ())
  ofRow := fun (conditions, observedGeneration, reachable, proxiedReferences, endpointHost,
    lastReconcileTime, ()) =>
    { conditions, observedGeneration, reachable, proxiedReferences, endpointHost,
      lastReconcileTime }

instance {τ : Type} [Rfc3339 τ] : DistinctKeys (MCPGPluginMirrorStatus τ) where

instance {τ : Type} [Rfc3339 τ] [LawfulRfc3339 τ] : RoundTrips (MCPGPluginMirrorStatus τ) :=
  roundTrips_of_lossless _

/-- The in-cluster registry host. -/
def MirrorService.host (service : MirrorService) : String :=
  service.name ++ "." ++ service.«namespace» ++ ".svc.cluster.local:" ++ toString service.port

/-- Outcome of rewriting a reference through a mirror. -/
inductive MirrorRewrite where
  | rewritten (image : String)
  | notApplicable
deriving DecidableEq

/-- Rewrite an upstream reference onto this mirror.  What follows the
upstream prefix is kept and put behind the mirror host and path prefix. -/
def MCPGPluginMirrorSpec.rewrite (spec : MCPGPluginMirrorSpec) (image : String) : MirrorRewrite :=
  let upstreamPrefix := trimEndMatches spec.upstream.registry '/' ++ "/" ++
    trimMatches spec.upstream.«namespace» '/' ++ "/"
  match stripPrefix image upstreamPrefix with
  | none => .notApplicable
  | some repoAndRef =>
      let host := spec.endpoint.service.host
      let path := match spec.endpoint.service.pathPrefix with
        | some p =>
            let p := trimMatches p '/'
            if p.isEmpty then "" else "/" ++ p
        | none => ""
      .rewritten (host ++ path ++ "/" ++ repoAndRef)

end McpgOperatorApi
