import McpgOperatorApi.Wire.Catalogue

namespace McpgOperatorApi

open Collections Serde

/-!
# Leaving a field out on the wire and in an expression

A field can be omitted from a JSON object, or from a record expression that
ends in the default record.  The two give the same resource for all types and
all sets of fields, with the exception of five fields whose wire default was
written down without adapting the default record.
-/

namespace WireType

/-- The fields whose wire default differs from the default record. -/
def driftingFields : List (String × String) :=
  [("MCPGGatewaySpec", "replicas"), ("SigningKeyRef", "key"), ("MCPGPluginSetEntry", "enabled"),
    ("MCPGPluginSetEntry", "enforce"), ("MCPGRevocationListSpec", "version")]

/-- The two ways of leaving out the fields `dropped` of a decoded object give
the same value. -/
def OmissionAgrees (type : WireType) (entries : List (String × Value)) (x : type.Carrier)
    (dropped : List String) : Prop :=
  deserialize (.object (Value.without dropped entries)) = some (withDefaults dropped x)

variable (τ : Type) [Rfc3339 τ] [Inhabited τ]

/-- The listed fields are the ones that the types name themselves. -/
theorem drifts_iff {type : WireType} (listed : type ∈ all τ) (key : String) :
    key ∈ type.drifts ↔ (type.name, key) ∈ driftingFields := by
  have table : ((all τ).all fun t =>
      t.drifts == (driftingFields.filter fun field => field.1 == t.name).map Prod.snd) = true := rfl
  rw [beq_iff_eq.mp (List.all_eq_true.mp table type listed), List.mem_map]
  simp only [List.mem_filter, beq_iff_eq]
  constructor
  · rintro ⟨field, ⟨present, same⟩, rfl⟩
    exact same ▸ present
  · intro present
    exact ⟨_, ⟨present, rfl⟩, rfl⟩

/-- Omission on the wire and omission in an expression agree exactly when no
drifting field is left out. -/
theorem omissionAgrees_iff {type : WireType} (listed : type ∈ all τ)
    {entries : List (String × Value)} {x : type.Carrier}
    (decoded : deserialize (.object entries) = some x) {dropped : List String}
    (defaulted : dropped ⊆ defaultedKeys type.Carrier) :
    type.OmissionAgrees entries x dropped ↔
      ∀ key ∈ dropped, (type.name, key) ∉ driftingFields := by
  rw [OmissionAgrees, deserialize_without_eq_iff decoded defaulted]
  simp only [type.drifts_exact, drifts_iff τ listed]

/-- A reference to a cluster issuer of another group. -/
def issuerEntries : List (String × Value) :=
  [("name", .string "ca"), ("kind", .string "ClusterIssuer"), ("group", .string "example.io")]

def clusterIssuer : ManagedIssuerRef := ⟨"ca", "ClusterIssuer", "example.io"⟩

/-- Its kind and group may be left out either way, and it becomes a reference
to an issuer of the same name. -/
theorem omissionAgrees_issuerRef :
    (steady "ManagedIssuerRef" ManagedIssuerRef).OmissionAgrees issuerEntries clusterIssuer
        ["kind", "group"] ∧
      withDefaults ["kind", "group"] clusterIssuer = ⟨"ca", "Issuer", "cert-manager.io"⟩ := by
  have listed : steady "ManagedIssuerRef" ManagedIssuerRef ∈ all EarlySecond :=
    mem_all_of_find? "ManagedIssuerRef" rfl
  exact ⟨(omissionAgrees_iff EarlySecond listed rfl (by decide)).mpr (by decide), rfl⟩

/-- An empty revocation list with its format version. -/
def versionedEntries : List (String × Value) :=
  [("version", serialize (1 : UInt8)), ("revocations", .array [])]

def versionedList : MCPGRevocationListSpec EarlySecond := ⟨1, none, []⟩

/-- Without the version, the list is of version one on the wire and of version
zero by default. -/
theorem not_omissionAgrees_version :
    deserialize (.object versionedEntries) = some versionedList ∧
      ["version"] ⊆ defaultedKeys (MCPGRevocationListSpec EarlySecond) ∧
        ¬ (revocationListSpec EarlySecond).OmissionAgrees versionedEntries versionedList
          ["version"] := by
  refine ⟨rfl, by decide, fun agrees => ?_⟩
  have versions := congrArg (Option.map MCPGRevocationListSpec.version) agrees
  exact absurd (Option.some.inj versions) (by decide)

end WireType

end McpgOperatorApi
