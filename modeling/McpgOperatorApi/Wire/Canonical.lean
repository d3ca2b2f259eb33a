import McpgOperatorApi.Serde.Canonical
import McpgOperatorApi.Wire.RoundTrip

namespace McpgOperatorApi

open Collections Serde

/-!
# Canonical manifests

Not every record type round trips, but every one of them rereads: whatever a
manifest says, the resource read from it is written as a manifest that is read
as the same resource.
-/

instance : Rereads GatewayScheduling := rereads_of_settles _

instance : Rereads PodDisruptionBudgetSpec := rereads_of_settles _

instance : Rereads HorizontalAutoscalerMetric := rereads_of_settles _

instance : Rereads HorizontalAutoscaler := rereads_of_settles _

set_option synthInstance.maxSize 512 in
instance : Rereads MCPGGatewaySpec := rereads_of_settles _

instance : Rereads MCPGPluginSetEntry := rereads_of_settles _

instance : Rereads MCPGPluginSetSpec := rereads_of_settles _

instance : Rereads ServerFederate := rereads_of_settles _

instance : Rereads MCPGServerSpec := rereads_of_settles _

/-- How the documents of a record type are put into canonical form. -/
structure CanonicalForms (T : Type) [Derive T] : Prop where
  /-- The canonical document is read as the resource of the document. -/
  readBack : ∀ {document canonical : Value}, canonicalise T document = some canonical →
    deserialize (α := T) canonical = deserialize document
  /-- Writing a resource again changes nothing. -/
  idem : ∀ {document canonical : Value}, canonicalise T document = some canonical →
    canonicalise T canonical = some canonical
  /-- Two accepted documents are written alike exactly when they are read as
  the same resource. -/
  eq_iff : ∀ {document canonical other otherCanonical : Value},
    canonicalise T document = some canonical → canonicalise T other = some otherCanonical →
      (canonical = otherCanonical ↔ deserialize (α := T) document = deserialize other)
  /-- Only the wire keys of the type matter, and not their order. -/
  congr : ∀ {first second : List (String × Value)},
    (∀ key ∈ wireKeys T, first.lookup key = second.lookup key) →
      canonicalise T (.object first) = canonicalise T (.object second)
  /-- An array stands for the object that gives the leading keys its values,
  and must not be longer than the type. -/
  positional : ∀ values : List Value, canonicalise T (.array values) =
    if values.length ≤ (wireKeys T).length
    then canonicalise T (.object ((wireKeys T).zip values)) else none
  /-- Canonical documents list wire keys in increasing order. -/
  shape : ∀ {document canonical : Value}, canonicalise T document = some canonical →
    ∃ entries, canonical = .object entries ∧ KeysIncreasing entries ∧
      entries.map Prod.fst ⊆ wireKeys T

theorem canonicalForms_of_rereads (T : Type) [Derive T] [DistinctKeys T] [Rereads T] :
    CanonicalForms T where
  readBack := deserialize_of_canonicalise
  idem := canonicalise_idem
  eq_iff := canonicalise_eq_iff
  congr := canonicalise_congr
  positional values := by
    rw [canonicalise, deserialize_array]
    split
    · rfl
    · rfl
  shape := keys_of_canonicalise

section All

variable (τ : Type) [Rfc3339 τ] [LawfulRfc3339 τ] [Inhabited τ]

/-- Every record type rereads. -/
theorem rereads_all : ∀ type ∈ WireType.all τ, Rereads type.Carrier := by
  simp only [WireType.all, WireType.gatewayTypes, WireType.pluginTypes, WireType.pluginSetTypes,
    WireType.revocationListTypes, WireType.clusterTypes, WireType.routeTypes,
    WireType.pluginMirrorTypes, WireType.tenantTypes, WireType.serverTypes, List.cons_append,
    List.nil_append, List.forall_mem_cons, WireType.steady, WireType.gatewaySpec,
    WireType.signingKeyRef, WireType.pluginSetEntry, WireType.revocationListSpec]
  repeat' apply And.intro
  all_goals first | infer_instance | exact List.forall_mem_nil _

/-- Every manifest of the crate has a canonical form. -/
theorem canonicalForms_all : ∀ type ∈ WireType.all τ, CanonicalForms type.Carrier := by
  intro type listed
  have rereads := rereads_all τ type listed
  exact canonicalForms_of_rereads type.Carrier

end All

/-- A gateway has one although it does not round trip. -/
theorem canonicalForms_gatewaySpec : CanonicalForms MCPGGatewaySpec := by
  have listed : WireType.gatewaySpec ∈ WireType.all EarlySecond :=
    WireType.mem_all_of_find? "MCPGGatewaySpec" rfl
  exact canonicalForms_all EarlySecond WireType.gatewaySpec listed

/-- An accepted manifest stays acceptable without some of its keys exactly
when the keys of the type among them may be missing; the fields that are left
out then have their stand-in values and all others are unchanged. -/
theorem manifest_without_keys (type : WireType) {entries : List (String × Value)}
    {x : type.Carrier} (decoded : deserialize (.object entries) = some x) (dropped : List String) :
    ((deserialize (α := type.Carrier) (.object (Value.without dropped entries))).isSome = true ↔
      ∀ key ∈ dropped, key ∈ wireKeys type.Carrier → key ∈ defaultedKeys type.Carrier) ∧
    ((∀ key ∈ dropped, key ∈ wireKeys type.Carrier → key ∈ defaultedKeys type.Carrier) →
      deserialize (.object (Value.without dropped entries)) = some (withStandIns dropped x)) :=
  ⟨isSome_deserialize_without_iff decoded dropped, deserialize_without decoded⟩

/-- A reference to a signing key needs its secret, and falls back to
`release.pub` without a key. -/
theorem manifest_without_keys_signingKey :
    (deserialize (α := SigningKeyRef) (.object [("key", .string "a.pub")])).isSome = false ∧
      deserialize (.object [("secretName", .string "signing")]) =
        some (⟨"signing", "release.pub"⟩ : SigningKeyRef) := by
  have decoded : deserialize (.object [("secretName", .string "signing"), ("key", .string "a.pub")]) =
      some (⟨"signing", "a.pub"⟩ : SigningKeyRef) := rfl
  constructor
  · have refused := (manifest_without_keys WireType.signingKeyRef decoded ["secretName"]).1
    exact Bool.eq_false_iff.mpr (fun accepted => absurd (refused.mp accepted) (by decide))
  · exact (manifest_without_keys WireType.signingKeyRef decoded ["key"]).2 (by decide)

end McpgOperatorApi
