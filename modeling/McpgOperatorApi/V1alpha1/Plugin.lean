import McpgOperatorApi.V1alpha1.Gateway

namespace McpgOperatorApi

open Collections Serde

/-!
# Plugins

A single signed plugin artefact and the trust policy it is verified under.
-/

/-- Where a plugin is pulled from. -/
structure OciImageRef where
  image : String
  pullSecretRef : Option LocalObjectReference
  mirrorRef : Option LocalObjectReference
deriving Inhabited

instance : Derive OciImageRef where
  Row := _
  fields := .required "image" <| .optional "pull_secret_ref" <| .optional "mirror_ref" .nil
  toRow x := (x.image, x.pullSecretRef, x.mirrorRef, ())
  ofRow := fun (image, pullSecretRef, mirrorRef, ()) =>
    { image, pullSecretRef, mirrorRef }

instance : DistinctKeys OciImageRef where

instance : RoundTrips OciImageRef := roundTrips_of_lossless _

def defaultSigningKeyField : String := "release.pub"

/-- Pointer to the Secret with the public signing key. -/
structure SigningKeyRef where
  secretName : String
  key : String
deriving Inhabited

instance : Derive SigningKeyRef where
  Row := _
  fields := .required "secret_name" <| .defaultedTo defaultSigningKeyField "key" .nil
  toRow x := (x.secretName, x.key, ())
  ofRow := fun (secretName, key, ()) =>
    { secretName, key }

instance : DistinctKeys SigningKeyRef where

instance : RoundTrips SigningKeyRef := roundTrips_of_lossless _

/-- The trust anchor of keyless signatures. -/
structure CosignIdentity where
  certificateIdentityRegexp : String
  oidcIssuer : String
deriving Inhabited

instance : Derive CosignIdentity where
  Row := _
  fields := .required "certificate_identity_regexp" <| .required "oidc_issuer" .nil
  toRow x := (x.certificateIdentityRegexp, x.oidcIssuer, ())
  ofRow := fun (certificateIdentityRegexp, oidcIssuer, ()) =>
    { certificateIdentityRegexp, oidcIssuer }

instance : DistinctKeys CosignIdentity where

instance : RoundTrips CosignIdentity := roundTrips_of_lossless _

/-- The provenance a plugin is pinned to. -/
structure SlsaProvenance where
  configMapName : String
  sourceUri : String
  sourceTag : String
deriving Inhabited

instance : Derive SlsaProvenance where
  Row := _
  fields := .required "config_map_name" <| .required "source_uri" <| .required "source_tag" .nil
  toRow x := (x.configMapName, x.sourceUri, x.sourceTag, ())
  ofRow := fun (configMapName, sourceUri, sourceTag, ()) =>
    { configMapName, sourceUri, sourceTag }

instance : DistinctKeys SlsaProvenance where

instance : RoundTrips SlsaProvenance := roundTrips_of_lossless _

/-- The three layers of the trust policy. -/
structure PluginTrust where
  signingKeyRef : SigningKeyRef
  cosignIdentity : Option CosignIdentity
  slsaProvenance : Option SlsaProvenance
deriving Inhabited

instance : Derive PluginTrust where
  Row := _
  fields := .required "signing_key_ref" <| .optional "cosign_identity" <|
    .optional "slsa_provenance" .nil
  toRow x := (x.signingKeyRef, x.cosignIdentity, x.slsaProvenance, ())
  ofRow := fun (signingKeyRef, cosignIdentity, slsaProvenance, ()) =>
    { signingKeyRef, cosignIdentity, slsaProvenance }

instance : DistinctKeys PluginTrust where

instance : RoundTrips PluginTrust := roundTrips_of_lossless _

/-- A single signed plugin artefact. -/
structure MCPGPluginSpec where
  pluginId : String
  version : String
  pluginClass : String
  oci : OciImageRef
  trust : PluginTrust
deriving Inhabited

instance : Derive MCPGPluginSpec where
  Row := _
  fields := .required "plugin_id" <| .required "version" <| .required "plugin_class" <|
    .required "oci" <| .required "trust" .nil
  toRow x := (x.pluginId, x.version, x.pluginClass, x.oci, x.trust, ())
  ofRow := fun (pluginId, version, pluginClass, oci, trust, ()) =>
    { pluginId, version, pluginClass, oci, trust }

instance : DistinctKeys MCPGPluginSpec where

instance : RoundTrips MCPGPluginSpec := roundTrips_of_lossless _

/-- Observed state of a plugin. -/
structure MCPGPluginStatus (τ : Type) where
  conditions : List (Condition τ)
  observedGeneration : Option Int64
  resolvedDigest : Option String
  signatureValid : Option Bool
  cosignVerified : Option Bool
  slsaVerified : Option Bool
  revokedBySha : Option Bool
  artefactSecretName : Option String
  pulledAt : Option τ
  lastReconcileTime : Option τ
deriving Inhabited

instance {τ : Type} [Rfc3339 τ] : Derive (MCPGPluginStatus τ) where
  Row := _
  fields := .list "conditions" <| .optional "observed_generation" <|
    .optional "resolved_digest" <| .optional "signature_valid" <| .optional "cosign_verified" <|
    .optional "slsa_verified" <| .optional "revoked_by_sha" <|
    .optional "artefact_secret_name" <| .optional "pulled_at" <|
    .optional "last_reconcile_time" .nil
  toRow x := (x.conditions, x.observedGeneration, x.resolvedDigest, x.signatureValid,
    x.cosignVerified, x.slsaVerified, x.revokedBySha, x.artefactSecretName, x.pulledAt,
    x.lastReconcileTime, ())
  ofRow := fun (conditions, observedGeneration, resolvedDigest, signatureValid, cosignVerified,
    slsaVerified, revokedBySha, artefactSecretName, pulledAt, lastReconcileTime, ()) =>
    { conditions, observedGeneration, resolvedDigest, signatureValid, cosignVerified,
      slsaVerified, revokedBySha, artefactSecretName, pulledAt, lastReconcileTime }

instance {τ : Type} [Rfc3339 τ] : DistinctKeys (MCPGPluginStatus τ) where

instance {τ : Type} [Rfc3339 τ] [LawfulRfc3339 τ] : RoundTrips (MCPGPluginStatus τ) :=
  roundTrips_of_lossless _

end McpgOperatorApi
