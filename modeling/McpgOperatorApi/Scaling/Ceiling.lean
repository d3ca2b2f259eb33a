import McpgOperatorApi.V1alpha1.Gateway

namespace McpgOperatorApi

/-!
# The field behind the replica ceiling

The ceiling of a gateway comes with the path of the field responsible for it,
so that a message can ask for that field to be lowered.  Without an active
autoscaler this is the static replica count, and the ceiling follows it.  With
one it is the upper bound, but the lower bound lifts every upper bound below
it.  Lowering the named field therefore brings the ceiling down to the lower
bound and no further.
-/

/-- The maximum of two counts is their least upper bound. -/
instance int32LawfulOrderSup : Std.LawfulOrderSup Int32 := by
  apply Std.LawfulOrderSup.of_le
  intro left right bound
  change (if left ≤ right then right else left) ≤ bound ↔ left ≤ bound ∧ right ≤ bound
  by_cases ordered : left ≤ right
  · rw [if_pos ordered]
    constructor
    · intro above
      exact ⟨Int32.le_trans ordered above, above⟩
    · intro bounds
      exact bounds.2
  · rw [if_neg ordered]
    have reversed : right ≤ left := (Int32.le_total left right).resolve_left ordered
    constructor
    · intro above
      exact ⟨above, Int32.le_trans reversed above⟩
    · intro bounds
      exact bounds.1

/-- The fewest replicas that the autoscaler keeps running. -/
def HorizontalAutoscaler.lowerBound (a : HorizontalAutoscaler) : Int32 :=
  max (a.minReplicas.getD 1) 1

theorem HorizontalAutoscaler.lowerBound_le_iff (a : HorizontalAutoscaler) {count : Int32}
    (positive : 1 ≤ count) :
    a.lowerBound ≤ count ↔ ∀ least, a.minReplicas = some least → least ≤ count := by
  rw [lowerBound, Std.max_le_iff]
  cases a.minReplicas with
  | none => simp [positive]
  | some least => simp [positive]

namespace MCPGGatewaySpec

variable (spec : MCPGGatewaySpec)

/-- The autoscaler, provided that it is switched on. -/
def activeAutoscaler : Option HorizontalAutoscaler :=
  spec.autoscaling.filter (fun a => a.enabled)

/-- Set the replica count at a spec path, and nothing else. -/
def setCountAt (path : String) (count : Int32) : MCPGGatewaySpec :=
  if path = "spec.replicas" then
    { spec with replicas := count }
  else if path = "spec.autoscaling.maxReplicas" then
    { spec with autoscaling := spec.autoscaling.map fun a => { a with maxReplicas := some count } }
  else
    spec

/-- Set the field that the ceiling names. -/
def lowerTo (count : Int32) : MCPGGatewaySpec :=
  spec.setCountAt spec.effectiveReplicaCeiling.2 count

variable {spec}

theorem activeAutoscaler_eq_some_iff {a : HorizontalAutoscaler} :
    spec.activeAutoscaler = some a ↔ spec.autoscaling = some a ∧ a.enabled = true :=
  Option.filter_eq_some_iff

theorem effectiveReplicaCeiling_of_active {a : HorizontalAutoscaler}
    (active : spec.activeAutoscaler = some a) :
    spec.effectiveReplicaCeiling =
      (max (a.maxReplicas.getD (max spec.replicas a.lowerBound)) a.lowerBound,
        "spec.autoscaling.maxReplicas") := by
  unfold activeAutoscaler at active
  rw [effectiveReplicaCeiling, active]
  rfl

theorem effectiveReplicaCeiling_of_inactive (inactive : spec.activeAutoscaler = none) :
    spec.effectiveReplicaCeiling = (spec.replicas, "spec.replicas") := by
  unfold activeAutoscaler at inactive
  rw [effectiveReplicaCeiling, inactive]

/-- With an active autoscaler, the lower bound stays in force. -/
theorem effectiveReplicaCeiling_lowerTo_of_active {a : HorizontalAutoscaler}
    (active : spec.activeAutoscaler = some a) (count : Int32) :
    (spec.lowerTo count).effectiveReplicaCeiling =
      (max count a.lowerBound, spec.effectiveReplicaCeiling.2) := by
  have settings := activeAutoscaler_eq_some_iff.mp active
  have path : spec.effectiveReplicaCeiling.2 = "spec.autoscaling.maxReplicas" :=
    congrArg Prod.snd (effectiveReplicaCeiling_of_active active)
  have lowered : (spec.lowerTo count).activeAutoscaler = some { a with maxReplicas := some count } := by
    apply activeAutoscaler_eq_some_iff.mpr
    rw [lowerTo, path, setCountAt, if_neg (by decide), if_pos rfl, settings.1]
    exact ⟨rfl, settings.2⟩
  rw [effectiveReplicaCeiling_of_active lowered, path]
  rfl

/-- Without one, the static count is all there is. -/
theorem effectiveReplicaCeiling_lowerTo_of_inactive (inactive : spec.activeAutoscaler = none)
    (count : Int32) :
    (spec.lowerTo count).effectiveReplicaCeiling = (count, spec.effectiveReplicaCeiling.2) := by
  have lowered : spec.lowerTo count = { spec with replicas := count } := by
    rw [lowerTo, effectiveReplicaCeiling_of_inactive inactive, setCountAt, if_pos rfl]
  rw [lowered, effectiveReplicaCeiling_of_inactive inactive]
  exact effectiveReplicaCeiling_of_inactive inactive

/-- Setting the named field to a positive cap brings the ceiling down to it
exactly when no active lower bound lies above the cap. -/
theorem ceiling_lowerTo_le_iff (spec : MCPGGatewaySpec) {cap : Int32} (positive : 1 ≤ cap) :
    (spec.lowerTo cap).effectiveReplicaCeiling.1 ≤ cap ↔
      ∀ a, spec.autoscaling = some a → a.enabled = true →
        ∀ least, a.minReplicas = some least → least ≤ cap := by
  cases active : spec.activeAutoscaler with
  | none =>
      rw [effectiveReplicaCeiling_lowerTo_of_inactive active]
      apply iff_of_true (Int32.le_refl cap)
      intro a given enabled
      have present := activeAutoscaler_eq_some_iff.mpr ⟨given, enabled⟩
      rw [active] at present
      cases present
  | some a =>
      have settings := activeAutoscaler_eq_some_iff.mp active
      rw [effectiveReplicaCeiling_lowerTo_of_active active, Std.max_le_iff,
        a.lowerBound_le_iff positive]
      constructor
      · intro bounds other given _
        rw [settings.1, Option.some.injEq] at given
        exact given ▸ bounds.2
      · intro below
        exact ⟨Int32.le_refl cap, below a settings.1 settings.2⟩

/-- A gateway that runs between `least` and 20 replicas. -/
def scaledFrom (least : Int32) : MCPGGatewaySpec :=
  { (default : MCPGGatewaySpec) with
    replicas := 1
    autoscaling := some
      { enabled := true, minReplicas := some least, maxReplicas := some 20, metrics := [] } }

/-- Lowering the upper bound from 20 to 4 works above a lower bound of 2. -/
theorem ceiling_lowerTo_le_scaledFrom_two :
    ((scaledFrom 2).lowerTo 4).effectiveReplicaCeiling.1 ≤ 4 := by
  apply (ceiling_lowerTo_le_iff (scaledFrom 2) (by decide)).mpr
  intro a given _ least bound
  cases given
  cases bound
  decide

/-- Below a lower bound of 5 it leaves the ceiling at 5. -/
theorem not_ceiling_lowerTo_le_scaledFrom_five :
    (1 : Int32) ≤ 4 ∧ 4 < (scaledFrom 5).effectiveReplicaCeiling.1 ∧
      ¬ ((scaledFrom 5).lowerTo 4).effectiveReplicaCeiling.1 ≤ 4 := by
  decide

end MCPGGatewaySpec

end McpgOperatorApi
