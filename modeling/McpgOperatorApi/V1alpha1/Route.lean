import McpgOperatorApi.Conditions

namespace McpgOperatorApi

open Collections Serde

/-!
# Routes

A route binds the tools of a tenant to a shared gateway.
-/

/-- The gateway a route attaches to. -/
structure GatewayRef where
  name : String
  «namespace» : Option String
deriving Inhabited

instance : Derive GatewayRef where
  Row := _
  fields := .required "name" <| .optional "namespace" .nil
  toRow x := (x.name, x.«namespace», ())
  ofRow := fun (name, «namespace», ()) =>
    { name, «namespace» }

instance : DistinctKeys GatewayRef where

instance : RoundTrips GatewayRef := roundTrips_of_lossless _

/-- A single tool that a route exposes. -/
structure RouteToolRef where
  id : String
deriving Inhabited

instance : Derive RouteToolRef where
  Row := _
  fields := .required "id" .nil
  toRow x := (x.id, ())
  ofRow := fun (id, ()) =>
    { id }

instance : DistinctKeys RouteToolRef where

instance : RoundTrips RouteToolRef := roundTrips_of_lossless _

/-- What a route selects on. -/
structure RouteMatch where
  tools : List RouteToolRef
deriving Inhabited

instance : Derive RouteMatch where
  Row := _
  fields := .defaulted "tools" .nil
  toRow x := (x.tools, ())
  ofRow := fun (tools, ()) =>
    { tools }

instance : DistinctKeys RouteMatch where

instance : RoundTrips RouteMatch := roundTrips_of_lossless _

/-- A tenant's route into a shared gateway. -/
structure MCPGRouteSpec where
  gatewayRef : GatewayRef
  «match» : RouteMatch
  identityChain : List String
  policyChain : List String
  auditChain : List String
  attributes : BTreeMap String String
deriving Inhabited

instance : Derive MCPGRouteSpec where
  Row := _
  fields := .required "gateway_ref" <| .required "match" <| .list "identity_chain" <|
    .list "policy_chain" <| .list "audit_chain" <| .map "attributes" .nil
  toRow x := (x.gatewayRef, x.«match», x.identityChain, x.policyChain, x.auditChain,
    x.attributes, ())
  ofRow := fun (gatewayRef, «match», identityChain, policyChain, auditChain, attributes, ()) =>
    { gatewayRef, «match», identityChain, policyChain, auditChain, attributes }

instance : DistinctKeys MCPGRouteSpec where

instance : RoundTrips MCPGRouteSpec := roundTrips_of_lossless _

/-- Observed state of a route. -/
structure MCPGRouteStatus (τ : Type) where
  conditions : List (Condition τ)
  observedGeneration : Option Int64
  matchedTools : Option Int64
  boundGateway : Option String
  lastReconcileTime : Option τ
deriving Inhabited

instance {τ : Type} [Rfc3339 τ] : Derive (MCPGRouteStatus τ) where
  Row := _
  fields := .list "conditions" <| .optional "observed_generation" <| .optional "matched_tools" <|
    .optional "bound_gateway" <| .optional "last_reconcile_time" .nil
  toRow x := (x.conditions, x.observedGeneration, x.matchedTools, x.boundGateway,
    x.lastReconcileTime, ())
  ofRow := fun (conditions, observedGeneration, matchedTools, boundGateway, lastReconcileTime, ()) =>
    { conditions, observedGeneration, matchedTools, boundGateway, lastReconcileTime }

instance {τ : Type} [Rfc3339 τ] : DistinctKeys (MCPGRouteStatus τ) where

instance {τ : Type} [Rfc3339 τ] [LawfulRfc3339 τ] : RoundTrips (MCPGRouteStatus τ) :=
  roundTrips_of_lossless _

namespace MCPGRouteSpec

/-- The tenant key that the tools of a route are scoped to. -/
def tenant (spec : MCPGRouteSpec) : Option String :=
  spec.attributes.get? "tenant"

/-- The namespace of the bound gateway, by default that of the route. -/
def gatewayNamespace (spec : MCPGRouteSpec) (routeNamespace : String) : String :=
  spec.gatewayRef.«namespace».getD routeNamespace

/-- The distinct plugin ids named across the three chains. -/
def allChainPlugins (spec : MCPGRouteSpec) : List String :=
  sortDedup (spec.identityChain ++ spec.policyChain ++ spec.auditChain)

end MCPGRouteSpec

end McpgOperatorApi
