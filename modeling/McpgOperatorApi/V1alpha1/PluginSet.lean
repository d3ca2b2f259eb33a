import McpgOperatorApi.V1alpha1.Gateway

namespace McpgOperatorApi

open Collections Serde

/-!
# Plugin sets

A bundle of plugins with per-plugin configuration.  On the wire an entry is
enabled and enforced unless it says otherwise.
-/

def defaultTrue : Bool := true

/-- One plugin of a plugin set. -/
structure MCPGPluginSetEntry where
  id : String
  pluginRef : LocalObjectReference
  enabled : Bool
  enforce : Bool
  config : Option Value
deriving Inhabited

instance : Derive MCPGPluginSetEntry where
  Row := _
  fields := .required "id" <| .required "plugin_ref" <| .defaultedTo defaultTrue "enabled" <|
    .defaultedTo defaultTrue "enforce" <| .optional "config" .nil
  toRow x := (x.id, x.pluginRef, x.enabled, x.enforce, x.config, ())
  ofRow := fun (id, pluginRef, enabled, enforce, config, ()) =>
    { id, pluginRef, enabled, enforce, config }

instance : DistinctKeys MCPGPluginSetEntry where

/-- A bundle of plugins with their capability grants. -/
structure MCPGPluginSetSpec where
  entries : List MCPGPluginSetEntry
  capabilityGrants : BTreeMap String (List String)
deriving Inhabited

instance : Derive MCPGPluginSetSpec where
  Row := _
  fields := .required "entries" <| .map "capability_grants" .nil
  toRow x := (x.entries, x.capabilityGrants, ())
  ofRow := fun (entries, capabilityGrants, ()) =>
    { entries, capabilityGrants }

instance : DistinctKeys MCPGPluginSetSpec where

/-- The capabilities granted to one plugin. -/
structure CapabilityGrant where
  pluginId : String
  capabilities : List String
deriving Inhabited

instance : Derive CapabilityGrant where
  Row := _
  fields := .required "plugin_id" <| .required "capabilities" .nil
  toRow x := (x.pluginId, x.capabilities, ())
  ofRow := fun (pluginId, capabilities, ()) =>
    { pluginId, capabilities }

instance : DistinctKeys CapabilityGrant where

instance : RoundTrips CapabilityGrant := roundTrips_of_lossless _

/-- One entry that could not be resolved. -/
structure FailedEntry where
  id : String
  reason : String
  message : String
deriving Inhabited

instance : Derive FailedEntry where
  Row := _
  fields := .required "id" <| .required "reason" <| .text "message" .nil
  toRow x := (x.id, x.reason, x.message, ())
  ofRow := fun (id, reason, message, ()) =>
    { id, reason, message }

instance : DistinctKeys FailedEntry where

instance : RoundTrips FailedEntry := roundTrips_of_lossless _

/-- Observed state of a plugin set. -/
structure MCPGPluginSetStatus (τ : Type) where
  conditions : List (Condition τ)
  observedGeneration : Option Int64
  resolvedEntries : Option Int64
  totalEntries : Option Int64
  resolvedHash : Option String
  failedEntries : List FailedEntry
  lastReconcileTime : Option τ
deriving Inhabited

instance {τ : Type} [Rfc3339 τ] : Derive (MCPGPluginSetStatus τ) where
  Row := _
  fields := .list "conditions" <| .optional "observed_generation" <|
    .optional "resolved_entries" <| .optional "total_entries" <| .optional "resolved_hash" <|
    .list "failed_entries" <| .optional "last_reconcile_time" .nil
  toRow x := (x.conditions, x.observedGeneration, x.resolvedEntries, x.totalEntries,
    x.resolvedHash, x.failedEntries, x.lastReconcileTime, ())
  ofRow := fun (conditions, observedGeneration, resolvedEntries, totalEntries, resolvedHash,
    failedEntries, lastReconcileTime, ()) =>
    { conditions, observedGeneration, resolvedEntries, totalEntries, resolvedHash, failedEntries,
      lastReconcileTime }

instance {τ : Type} [Rfc3339 τ] : DistinctKeys (MCPGPluginSetStatus τ) where

instance {τ : Type} [Rfc3339 τ] [LawfulRfc3339 τ] : RoundTrips (MCPGPluginSetStatus τ) :=
  roundTrips_of_lossless _

end McpgOperatorApi
