import McpgOperatorApi.Conditions
import McpgOperatorApi.Text.AsciiCase

namespace McpgOperatorApi

open Collections Serde Text

/-!
# Revocation lists

The cluster-wide list of revoked artefact hashes.
-/

/-- One revoked artefact. -/
structure RevocationEntry (τ : Type) where
  artifactSha256 : String
  reason : String
  revokedAt : Option τ
deriving Inhabited

instance {τ : Type} [Rfc3339 τ] : Derive (RevocationEntry τ) where
  Row := _
  fields := .required "artifact_sha256" <| .required "reason" <| .optional "revoked_at" .nil
  toRow x := (x.artifactSha256, x.reason, x.revokedAt, ())
  ofRow := fun (artifactSha256, reason, revokedAt, ()) =>
    { artifactSha256, reason, revokedAt }

instance {τ : Type} [Rfc3339 τ] : DistinctKeys (RevocationEntry τ) where

instance {τ : Type} [Rfc3339 τ] [LawfulRfc3339 τ] : RoundTrips (RevocationEntry τ) :=
  roundTrips_of_lossless _

def defaultFormatVersion : UInt8 := 1

/-- A list of revoked artefacts. -/
structure MCPGRevocationListSpec (τ : Type) where
  version : UInt8
  issuedAt : Option τ
  revocations : List (RevocationEntry τ)
deriving Inhabited

instance {τ : Type} [Rfc3339 τ] : Derive (MCPGRevocationListSpec τ) where
  Row := _
  fields := .defaultedTo defaultFormatVersion "version" <| .optional "issued_at" <|
    .defaulted "revocations" .nil
  toRow x := (x.version, x.issuedAt, x.revocations, ())
  ofRow := fun (version, issuedAt, revocations, ()) =>
    { version, issuedAt, revocations }

instance {τ : Type} [Rfc3339 τ] : DistinctKeys (MCPGRevocationListSpec τ) where

instance {τ : Type} [Rfc3339 τ] [LawfulRfc3339 τ] : RoundTrips (MCPGRevocationListSpec τ) :=
  roundTrips_of_lossless _

/-- Observed state of a revocation list. -/
structure MCPGRevocationListStatus (τ : Type) where
  conditions : List (Condition τ)
  observedGeneration : Option Int64
  observedRevocations : Option Int64
  materialisedNamespaces : Option Int64
  pluginsBlocked : List String
  contentHash : Option String
  lastReconcileTime : Option τ
deriving Inhabited

instance {τ : Type} [Rfc3339 τ] : Derive (MCPGRevocationListStatus τ) where
  Row := _
  fields := .list "conditions" <| .optional "observed_generation" <|
    .optional "observed_revocations" <| .optional "materialised_namespaces" <|
    .list "plugins_blocked" <| .optional "content_hash" <| .optional "last_reconcile_time" .nil
  toRow x := (x.conditions, x.observedGeneration, x.observedRevocations,
    x.materialisedNamespaces, x.pluginsBlocked, x.contentHash, x.lastReconcileTime, ())
  ofRow := fun (conditions, observedGeneration, observedRevocations, materialisedNamespaces,
    pluginsBlocked, contentHash, lastReconcileTime, ()) =>
    { conditions, observedGeneration, observedRevocations, materialisedNamespaces,
      pluginsBlocked, contentHash, lastReconcileTime }

instance {τ : Type} [Rfc3339 τ] : DistinctKeys (MCPGRevocationListStatus τ) where

instance {τ : Type} [Rfc3339 τ] [LawfulRfc3339 τ] : RoundTrips (MCPGRevocationListStatus τ) :=
  roundTrips_of_lossless _

/-- The revoked hashes, normalised to lower case. -/
def MCPGRevocationListSpec.uniqueHashes {τ : Type} (spec : MCPGRevocationListSpec τ) :
    BTreeSet String :=
  .ofList (spec.revocations.map fun e => toAsciiLowercase e.artifactSha256)

end McpgOperatorApi
