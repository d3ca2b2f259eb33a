import McpgOperatorApi.Wire.Catalogue

namespace McpgOperatorApi

open Collections Serde

/-!
# Decoding undoes encoding

All record types round trip except those that hold optional free-form JSON
somewhere: there a present `null` comes back as an absence.  For each of these
types, `norm` says what comes back and `NullFree` that nothing is lost.
-/

/-! ## Gateways -/

def GatewayScheduling.norm (x : GatewayScheduling) : GatewayScheduling :=
  { x with affinity := dropNull x.affinity }

def GatewayScheduling.NullFree (x : GatewayScheduling) : Prop :=
  x.affinity ≠ some .null

theorem GatewayScheduling.normalises : NormalisesTo GatewayScheduling norm := fun _ =>
  deserialize_of_restores <| Fields.restores_cons_self <| Fields.restores_cons_self <|
    Fields.restores_dropNull <| Fields.restores_cons_self <| Fields.restores_cons_self <|
      Fields.restores_cons_self trivial

theorem GatewayScheduling.norm_of_nullFree {x : GatewayScheduling} (nullFree : x.NullFree) :
    x.norm = x := by
  rw [norm, dropNull_of_ne nullFree]

def PodDisruptionBudgetSpec.norm (x : PodDisruptionBudgetSpec) : PodDisruptionBudgetSpec :=
  { x with minAvailable := dropNull x.minAvailable, maxUnavailable := dropNull x.maxUnavailable }

def PodDisruptionBudgetSpec.NullFree (x : PodDisruptionBudgetSpec) : Prop :=
  x.minAvailable ≠ some .null ∧ x.maxUnavailable ≠ some .null

theorem PodDisruptionBudgetSpec.normalises : NormalisesTo PodDisruptionBudgetSpec norm := fun _ =>
  deserialize_of_restores <| Fields.restores_cons_self <| Fields.restores_dropNull <|
    Fields.restores_dropNull trivial

theorem PodDisruptionBudgetSpec.norm_of_nullFree {x : PodDisruptionBudgetSpec}
    (nullFree : x.NullFree) : x.norm = x := by
  rw [norm, dropNull_of_ne nullFree.1, dropNull_of_ne nullFree.2]

def HorizontalAutoscalerMetric.norm (x : HorizontalAutoscalerMetric) : HorizontalAutoscalerMetric :=
  { x with
    resource := dropNull x.resource
    pods := dropNull x.pods
    object := dropNull x.object
    external := dropNull x.external }

def HorizontalAutoscalerMetric.NullFree (x : HorizontalAutoscalerMetric) : Prop :=
  x.resource ≠ some .null ∧ x.pods ≠ some .null ∧ x.object ≠ some .null ∧ x.external ≠ some .null

theorem HorizontalAutoscalerMetric.normalises : NormalisesTo HorizontalAutoscalerMetric norm :=
  fun _ => deserialize_of_restores <| Fields.restores_cons_self <| Fields.restores_dropNull <|
    Fields.restores_dropNull <| Fields.restores_dropNull <| Fields.restores_dropNull trivial

theorem HorizontalAutoscalerMetric.norm_of_nullFree {x : HorizontalAutoscalerMetric}
    (nullFree : x.NullFree) : x.norm = x := by
  rcases nullFree with ⟨resource, pods, object, external⟩
  rw [norm, dropNull_of_ne resource, dropNull_of_ne pods, dropNull_of_ne object,
    dropNull_of_ne external]

def HorizontalAutoscaler.norm (x : HorizontalAutoscaler) : HorizontalAutoscaler :=
  { x with metrics := x.metrics.map HorizontalAutoscalerMetric.norm }

def HorizontalAutoscaler.NullFree (x : HorizontalAutoscaler) : Prop :=
  ∀ metric ∈ x.metrics, metric.NullFree

theorem HorizontalAutoscaler.normalises : NormalisesTo HorizontalAutoscaler norm := fun _ =>
  deserialize_of_restores <| Fields.restores_cons_self <| Fields.restores_cons_self <|
    Fields.restores_cons_self <| Fields.restores_list HorizontalAutoscalerMetric.normalises trivial

theorem HorizontalAutoscaler.norm_of_nullFree {x : HorizontalAutoscaler} (nullFree : x.NullFree) :
    x.norm = x := by
  rw [norm, map_norm_eq_self fun metric listed =>
    HorizontalAutoscalerMetric.norm_of_nullFree (nullFree metric listed)]

def MCPGGatewaySpec.norm (x : MCPGGatewaySpec) : MCPGGatewaySpec :=
  { x with
    scheduling := x.scheduling.map GatewayScheduling.norm
    podDisruptionBudget := x.podDisruptionBudget.map PodDisruptionBudgetSpec.norm
    autoscaling := x.autoscaling.map HorizontalAutoscaler.norm }

def MCPGGatewaySpec.NullFree (x : MCPGGatewaySpec) : Prop :=
  (∀ scheduling ∈ x.scheduling, scheduling.NullFree) ∧
    (∀ budget ∈ x.podDisruptionBudget, budget.NullFree) ∧
      ∀ autoscaling ∈ x.autoscaling, autoscaling.NullFree

theorem MCPGGatewaySpec.normalises : NormalisesTo MCPGGatewaySpec norm := by
  intro x
  apply deserialize_of_restores
  -- The first ten fields round trip.
  iterate 10 apply Fields.restores_cons_self
  apply Fields.restores_optional GatewayScheduling.normalises
  iterate 2 apply Fields.restores_cons_self
  apply Fields.restores_optional PodDisruptionBudgetSpec.normalises
  apply Fields.restores_optional HorizontalAutoscaler.normalises
  iterate 8 apply Fields.restores_cons_self
  trivial

theorem MCPGGatewaySpec.norm_of_nullFree {x : MCPGGatewaySpec} (nullFree : x.NullFree) :
    x.norm = x := by
  rcases nullFree with ⟨scheduling, budget, autoscaling⟩
  rw [norm,
    option_map_norm_eq_self fun s listed => GatewayScheduling.norm_of_nullFree (scheduling s listed),
    option_map_norm_eq_self fun b listed => PodDisruptionBudgetSpec.norm_of_nullFree (budget b listed),
    option_map_norm_eq_self fun a listed =>
      HorizontalAutoscaler.norm_of_nullFree (autoscaling a listed)]

/-! ## Plugin sets -/

def MCPGPluginSetEntry.norm (x : MCPGPluginSetEntry) : MCPGPluginSetEntry :=
  { x with config := dropNull x.config }

def MCPGPluginSetEntry.NullFree (x : MCPGPluginSetEntry) : Prop :=
  x.config ≠ some .null

theorem MCPGPluginSetEntry.normalises : NormalisesTo MCPGPluginSetEntry norm := fun _ =>
  deserialize_of_restores <| Fields.restores_cons_self <| Fields.restores_cons_self <|
    Fields.restores_cons_self <| Fields.restores_cons_self <| Fields.restores_dropNull trivial

theorem MCPGPluginSetEntry.norm_of_nullFree {x : MCPGPluginSetEntry} (nullFree : x.NullFree) :
    x.norm = x := by
  rw [norm, dropNull_of_ne nullFree]

def MCPGPluginSetSpec.norm (x : MCPGPluginSetSpec) : MCPGPluginSetSpec :=
  { x with entries := x.entries.map MCPGPluginSetEntry.norm }

def MCPGPluginSetSpec.NullFree (x : MCPGPluginSetSpec) : Prop :=
  ∀ entry ∈ x.entries, entry.NullFree

theorem MCPGPluginSetSpec.normalises : NormalisesTo MCPGPluginSetSpec norm := fun _ =>
  deserialize_of_restores <|
    Fields.restores_cons MCPGPluginSetEntry.normalises.list (fun _ skipped => Bool.noConfusion skipped)
      (Fields.restores_cons_self trivial)

theorem MCPGPluginSetSpec.norm_of_nullFree {x : MCPGPluginSetSpec} (nullFree : x.NullFree) :
    x.norm = x := by
  rw [norm, map_norm_eq_self fun entry listed =>
    MCPGPluginSetEntry.norm_of_nullFree (nullFree entry listed)]

/-! ## Servers -/

def ServerFederate.norm (x : ServerFederate) : ServerFederate :=
  { x with
    governance := dropNull x.governance
    «import» := dropNull x.«import»
    auth := dropNull x.auth }

def ServerFederate.NullFree (x : ServerFederate) : Prop :=
  x.governance ≠ some .null ∧ x.«import» ≠ some .null ∧ x.auth ≠ some .null

theorem ServerFederate.normalises : NormalisesTo ServerFederate norm := fun _ =>
  deserialize_of_restores <| Fields.restores_cons_self <| Fields.restores_cons_self <|
    Fields.restores_cons_self <| Fields.restores_dropNull <| Fields.restores_dropNull <|
      Fields.restores_dropNull trivial

theorem ServerFederate.norm_of_nullFree {x : ServerFederate} (nullFree : x.NullFree) :
    x.norm = x := by
  rcases nullFree with ⟨governance, surface, auth⟩
  rw [norm, dropNull_of_ne governance, dropNull_of_ne surface, dropNull_of_ne auth]

def MCPGServerSpec.norm (x : MCPGServerSpec) : MCPGServerSpec :=
  { x with federate := x.federate.map ServerFederate.norm }

def MCPGServerSpec.NullFree (x : MCPGServerSpec) : Prop :=
  ∀ federate ∈ x.federate, federate.NullFree

theorem MCPGServerSpec.normalises : NormalisesTo MCPGServerSpec norm := by
  intro x
  apply deserialize_of_restores
  iterate 10 apply Fields.restores_cons_self
  exact Fields.restores_optional ServerFederate.normalises trivial

theorem MCPGServerSpec.norm_of_nullFree {x : MCPGServerSpec} (nullFree : x.NullFree) :
    x.norm = x := by
  rw [norm, option_map_norm_eq_self fun federate listed =>
    ServerFederate.norm_of_nullFree (nullFree federate listed)]

/-! ## The whole wire format -/

/-- Every spec and the status condition are decoded to what was encoded, up to
a present `null` in optional free-form JSON. -/
structure WireFormatLaws (τ : Type) [Rfc3339 τ] [Inhabited τ] : Prop where
  gateway : RestoresUpTo MCPGGatewaySpec MCPGGatewaySpec.norm MCPGGatewaySpec.NullFree
  plugin : RestoresUpTo MCPGPluginSpec id fun _ => True
  pluginSet : RestoresUpTo MCPGPluginSetSpec MCPGPluginSetSpec.norm MCPGPluginSetSpec.NullFree
  revocationList : RestoresUpTo (MCPGRevocationListSpec τ) id fun _ => True
  cluster : RestoresUpTo MCPGClusterSpec id fun _ => True
  route : RestoresUpTo MCPGRouteSpec id fun _ => True
  server : RestoresUpTo MCPGServerSpec MCPGServerSpec.norm MCPGServerSpec.NullFree
  pluginMirror : RestoresUpTo MCPGPluginMirrorSpec id fun _ => True
  tenant : RestoresUpTo MCPGTenantSpec id fun _ => True
  condition : RestoresUpTo (Condition τ) id fun _ => True
  /-- No two fields of a type share a wire key. -/
  distinctKeys : ∀ type ∈ WireType.all τ, (Derive.fields (T := type.Carrier)).keys.Nodup
  /-- No field leaves out a value that its missing key does not restore. -/
  skipsRestored : ∀ type ∈ WireType.all τ, (Derive.fields (T := type.Carrier)).SkipsRestored

/-- Decoding undoes encoding over the whole wire format, for instants whose
texts are read back. -/
theorem wireFormatLaws (τ : Type) [Rfc3339 τ] [LawfulRfc3339 τ] [Inhabited τ] :
    WireFormatLaws τ where
  gateway := restoresUpTo_of_normalises MCPGGatewaySpec.normalises
    fun _ => MCPGGatewaySpec.norm_of_nullFree
  plugin := restoresUpTo_of_roundTrips _
  pluginSet := restoresUpTo_of_normalises MCPGPluginSetSpec.normalises
    fun _ => MCPGPluginSetSpec.norm_of_nullFree
  revocationList := restoresUpTo_of_roundTrips _
  cluster := restoresUpTo_of_roundTrips _
  route := restoresUpTo_of_roundTrips _
  server := restoresUpTo_of_normalises MCPGServerSpec.normalises
    fun _ => MCPGServerSpec.norm_of_nullFree
  pluginMirror := restoresUpTo_of_roundTrips _
  tenant := restoresUpTo_of_roundTrips _
  condition := restoresUpTo_of_roundTrips _
  distinctKeys type _ := type.distinctKeys.keys_nodup
  skipsRestored _ _ := Fields.skipsRestored _

theorem wireFormatLaws_earlySecond : WireFormatLaws EarlySecond :=
  wireFormatLaws EarlySecond

end McpgOperatorApi
