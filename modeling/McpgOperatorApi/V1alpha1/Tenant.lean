import McpgOperatorApi.Conditions
import McpgOperatorApi.Text.Strings

namespace McpgOperatorApi

open Collections Serde Text

/-!
# Tenants

A tenant owns namespaces and lists the plugins they may use.
-/

/-- One matcher of the plugin allowlist. -/
structure AllowedPlugin where
  name : Option String
  registryPrefix : Option String
deriving Inhabited

instance : Derive AllowedPlugin where
  Row := _
  fields := .optional "name" <| .optional "registry_prefix" .nil
  toRow x := (x.name, x.registryPrefix, ())
  ofRow := fun (name, registryPrefix, ()) =>
    { name, registryPrefix }

instance : DistinctKeys AllowedPlugin where

instance : RoundTrips AllowedPlugin := roundTrips_of_lossless _

/-- Hard caps on the resources of a tenant; absent means unlimited. -/
structure TenantQuotas where
  maxGateways : Option Int64
  maxPluginSets : Option Int64
  maxRoutes : Option Int64
  maxReplicasPerGateway : Option Int64
deriving Inhabited

instance : Derive TenantQuotas where
  Row := _
  fields := .optional "max_gateways" <| .optional "max_plugin_sets" <| .optional "max_routes" <|
    .optional "max_replicas_per_gateway" .nil
  toRow x := (x.maxGateways, x.maxPluginSets, x.maxRoutes, x.maxReplicasPerGateway, ())
  ofRow := fun (maxGateways, maxPluginSets, maxRoutes, maxReplicasPerGateway, ()) =>
    { maxGateways, maxPluginSets, maxRoutes, maxReplicasPerGateway }

instance : DistinctKeys TenantQuotas where

instance : RoundTrips TenantQuotas := roundTrips_of_lossless _

/-- The identity attribute of a tenant. -/
structure TenantIdentityAttribute where
  key : String
  value : String
deriving Inhabited

instance : Derive TenantIdentityAttribute where
  Row := _
  fields := .required "key" <| .required "value" .nil
  toRow x := (x.key, x.value, ())
  ofRow := fun (key, value, ()) =>
    { key, value }

instance : DistinctKeys TenantIdentityAttribute where

instance : RoundTrips TenantIdentityAttribute := roundTrips_of_lossless _

/-- A tenant boundary over existing namespaces. -/
structure MCPGTenantSpec where
  namespaces : List String
  allowedPlugins : List AllowedPlugin
  quotas : Option TenantQuotas
  identityAttribute : Option TenantIdentityAttribute
deriving Inhabited

instance : Derive MCPGTenantSpec where
  Row := _
  fields := .required "namespaces" <| .list "allowed_plugins" <| .optional "quotas" <|
    .optional "identity_attribute" .nil
  toRow x := (x.namespaces, x.allowedPlugins, x.quotas, x.identityAttribute, ())
  ofRow := fun (namespaces, allowedPlugins, quotas, identityAttribute, ()) =>
    { namespaces, allowedPlugins, quotas, identityAttribute }

instance : DistinctKeys MCPGTenantSpec where

instance : RoundTrips MCPGTenantSpec := roundTrips_of_lossless _

/-- Resource counts across a tenant's namespaces. -/
structure TenantObservedCounts where
  gateways : Int64
  pluginSets : Int64
  routes : Int64
deriving Inhabited

instance : Derive TenantObservedCounts where
  Row := _
  fields := .defaulted "gateways" <| .defaulted "plugin_sets" <| .defaulted "routes" .nil
  toRow x := (x.gateways, x.pluginSets, x.routes, ())
  ofRow := fun (gateways, pluginSets, routes, ()) =>
    { gateways, pluginSets, routes }

instance : DistinctKeys TenantObservedCounts where

instance : RoundTrips TenantObservedCounts := roundTrips_of_lossless _

/-- Observed state of a tenant. -/
structure MCPGTenantStatus (τ : Type) where
  conditions : List (Condition τ)
  observedGeneration : Option Int64
  boundNamespaces : List String
  observed : Option TenantObservedCounts
  lastReconcileTime : Option τ
deriving Inhabited

instance {τ : Type} [Rfc3339 τ] : Derive (MCPGTenantStatus τ) where
  Row := _
  fields := .list "conditions" <| .optional "observed_generation" <| .list "bound_namespaces" <|
    .optional "observed" <| .optional "last_reconcile_time" .nil
  toRow x := (x.conditions, x.observedGeneration, x.boundNamespaces, x.observed,
    x.lastReconcileTime, ())
  ofRow := fun (conditions, observedGeneration, boundNamespaces, observed, lastReconcileTime, ()) =>
    { conditions, observedGeneration, boundNamespaces, observed, lastReconcileTime }

instance {τ : Type} [Rfc3339 τ] : DistinctKeys (MCPGTenantStatus τ) where

instance {τ : Type} [Rfc3339 τ] [LawfulRfc3339 τ] : RoundTrips (MCPGTenantStatus τ) :=
  roundTrips_of_lossless _

/-- This matcher admits a plugin with the given resource name, capability id
and, once resolved, image. -/
def AllowedPlugin.matches (allowed : AllowedPlugin) (resourceName pluginId : String)
    (image : Option String) : Bool :=
  (match allowed.name with
    | some name => name == "*" || name == resourceName || name == pluginId
    | none => false) ||
  (match allowed.registryPrefix, image with
    | some registryPrefix, some image => !registryPrefix.isEmpty && startsWith image registryPrefix
    | _, _ => false)

namespace MCPGTenantSpec

def ownsNamespace (spec : MCPGTenantSpec) (ns : String) : Bool :=
  spec.namespaces.any (fun n => n == ns)

/-- The namespaces owned by both tenants. -/
def overlappingNamespaces (spec other : MCPGTenantSpec) : List String :=
  sortDedup (spec.namespaces.filter fun n => other.namespaces.any (fun o => o == n))

/-- The allowlist permits the plugin. -/
def pluginAllowed (spec : MCPGTenantSpec) (resourceName pluginId : String)
    (image : Option String) : Bool :=
  spec.allowedPlugins.any (fun a => a.matches resourceName pluginId image)

end MCPGTenantSpec

end McpgOperatorApi
