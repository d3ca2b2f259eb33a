import McpgOperatorApi.Scaling.Ceiling

namespace McpgOperatorApi

/-!
# The counts in force

The replica ceiling is the largest of the counts that are in force: the static
count, or the bounds of an active autoscaler, where a missing lower bound
stands for one replica and a missing upper bound for the static count.  A
rescaling of all configured counts therefore rescales the ceiling.  In
particular a cap that is put on every count is kept, where a cap on the named
field alone may be missed.
-/

/-- A monotone map preserves the maximum of two counts. -/
theorem map_max_count {f : Int32 → Int32} (monotone : ∀ a b, a ≤ b → f a ≤ f b) (a b : Int32) :
    f (max a b) = max (f a) (f b) := by
  apply Int32.le_antisymm
  · rcases Std.max_eq_or (a := a) (b := b) with left | right
    · rw [left]
      exact Std.left_le_max
    · rw [right]
      exact Std.right_le_max
  · apply Std.max_le_iff.mpr
    exact ⟨monotone _ _ Std.left_le_max, monotone _ _ Std.right_le_max⟩

theorem count_le_maxValue (count : Int32) : count ≤ Int32.maxValue :=
  Int32.le_iff_toInt_le.mpr count.toInt_le

/-- Map both bounds of an autoscaler. -/
def HorizontalAutoscaler.rescaled (f : Int32 → Int32) (a : HorizontalAutoscaler) :
    HorizontalAutoscaler :=
  { a with
    minReplicas := a.minReplicas.map f
    maxReplicas := a.maxReplicas.map f }

theorem HorizontalAutoscaler.lowerBound_rescaled {f : Int32 → Int32}
    (monotone : ∀ a b, a ≤ b → f a ≤ f b) (unit : f 1 = 1) (a : HorizontalAutoscaler) :
    (a.rescaled f).lowerBound = f a.lowerBound := by
  have bound : (a.minReplicas.map f).getD 1 = f (a.minReplicas.getD 1) := by
    rw [← Option.getD_map f, unit]
  rw [lowerBound, lowerBound, map_max_count monotone, unit, ← bound]
  rfl

namespace MCPGGatewaySpec

variable (spec : MCPGGatewaySpec)

/-- The counts that are in force. -/
def countsInForce : List Int32 :=
  match spec.activeAutoscaler with
  | some a => [1, a.minReplicas.getD 1, a.maxReplicas.getD spec.replicas]
  | none => [spec.replicas]

/-- Map every configured count. -/
def rescaled (f : Int32 → Int32) : MCPGGatewaySpec :=
  { spec with
    replicas := f spec.replicas
    autoscaling := spec.autoscaling.map (HorizontalAutoscaler.rescaled f) }

/-- Lower every configured count above the cap to it. -/
def cappedAt (cap : Int32) : MCPGGatewaySpec :=
  spec.rescaled fun count => if count ≤ cap then count else cap

theorem activeAutoscaler_rescaled (f : Int32 → Int32) :
    (spec.rescaled f).activeAutoscaler =
      spec.activeAutoscaler.map (HorizontalAutoscaler.rescaled f) := by
  change (spec.autoscaling.map (HorizontalAutoscaler.rescaled f)).filter (fun a => a.enabled) =
    (spec.autoscaling.filter (fun a => a.enabled)).map (HorizontalAutoscaler.rescaled f)
  cases spec.autoscaling with
  | none => rfl
  | some a =>
      cases enabled : a.enabled <;> simp [Option.filter, HorizontalAutoscaler.rescaled, enabled]

variable {spec}

theorem countsInForce_of_active {a : HorizontalAutoscaler} (active : spec.activeAutoscaler = some a) :
    spec.countsInForce = [1, a.minReplicas.getD 1, a.maxReplicas.getD spec.replicas] := by
  rw [countsInForce, active]

theorem countsInForce_of_inactive (inactive : spec.activeAutoscaler = none) :
    spec.countsInForce = [spec.replicas] := by
  rw [countsInForce, inactive]

/-- The lower bound has to be taken into account once only. -/
theorem effectiveReplicaCeiling_eq_max {a : HorizontalAutoscaler}
    (active : spec.activeAutoscaler = some a) :
    spec.effectiveReplicaCeiling =
      (max (a.maxReplicas.getD spec.replicas) a.lowerBound, "spec.autoscaling.maxReplicas") := by
  rw [effectiveReplicaCeiling_of_active active]
  cases a.maxReplicas with
  | none =>
      have absorbed : max (max spec.replicas a.lowerBound) a.lowerBound =
          max spec.replicas a.lowerBound := by
        apply Int32.le_antisymm
        · exact Std.max_le_iff.mpr ⟨Int32.le_refl _, Std.right_le_max⟩
        · exact Std.left_le_max
      rw [Option.getD_none, Option.getD_none, absorbed]
  | some most => rfl

/-- A rescaling of all counts that keeps a single replica rescales the
ceiling. -/
theorem effectiveReplicaCeiling_rescaled {f : Int32 → Int32}
    (monotone : ∀ a b, a ≤ b → f a ≤ f b) (unit : f 1 = 1) :
    (spec.rescaled f).effectiveReplicaCeiling =
      (f spec.effectiveReplicaCeiling.1, spec.effectiveReplicaCeiling.2) := by
  have mapped := spec.activeAutoscaler_rescaled f
  cases active : spec.activeAutoscaler with
  | none =>
      rw [active] at mapped
      rw [effectiveReplicaCeiling_of_inactive active, effectiveReplicaCeiling_of_inactive mapped]
      rfl
  | some a =>
      rw [active] at mapped
      rw [effectiveReplicaCeiling_eq_max active, effectiveReplicaCeiling_eq_max mapped,
        a.lowerBound_rescaled monotone unit, map_max_count monotone, ← Option.getD_map f]
      rfl

/-- The ceiling is at most the bounds of the counts in force. -/
theorem ceiling_le_iff (cap : Int32) :
    spec.effectiveReplicaCeiling.1 ≤ cap ↔ ∀ count ∈ spec.countsInForce, count ≤ cap := by
  cases active : spec.activeAutoscaler with
  | none =>
      rw [effectiveReplicaCeiling_of_inactive active, countsInForce_of_inactive active]
      simp only [List.forall_mem_singleton]
  | some a =>
      rw [effectiveReplicaCeiling_eq_max active, countsInForce_of_active active,
        HorizontalAutoscaler.lowerBound, Std.max_le_iff, Std.max_le_iff]
      simp only [List.forall_mem_cons, List.not_mem_nil, false_imp_iff, implies_true, and_true]
      tauto

/-- Some count in force reaches the ceiling. -/
theorem ceiling_mem_countsInForce (spec : MCPGGatewaySpec) :
    spec.effectiveReplicaCeiling.1 ∈ spec.countsInForce := by
  cases active : spec.activeAutoscaler with
  | none =>
      rw [effectiveReplicaCeiling_of_inactive active, countsInForce_of_inactive active]
      exact List.mem_cons_self
  | some a =>
      rw [effectiveReplicaCeiling_eq_max active, countsInForce_of_active active]
      change max (a.maxReplicas.getD spec.replicas) (max (a.minReplicas.getD 1) 1) ∈ _
      rcases Std.max_eq_or (a := a.maxReplicas.getD spec.replicas) (b := max (a.minReplicas.getD 1) 1)
        with upper | lower
      · rw [upper]
        simp
      · rw [lower]
        rcases Std.max_eq_or (a := a.minReplicas.getD 1) (b := (1 : Int32)) with given | least
        · rw [given]
          simp
        · rw [least]
          simp

/-- A lower bound of an autoscaler is the largest count only if it is set to
it. -/
theorem lowerBound_eq_maxValue_iff (a : HorizontalAutoscaler) :
    a.lowerBound = Int32.maxValue ↔ a.minReplicas = some Int32.maxValue := by
  have small : (1 : Int32) ≠ Int32.maxValue := by decide
  rw [HorizontalAutoscaler.lowerBound]
  constructor
  · intro top
    rcases Std.max_eq_or (a := a.minReplicas.getD 1) (b := (1 : Int32)) with given | least
    · rw [given] at top
      cases set : a.minReplicas with
      | none =>
          rw [set] at top
          exact absurd top small
      | some bound =>
          rw [set] at top
          exact congrArg some top
    · exact absurd (least.symm.trans top) small
  · intro set
    rw [set]
    exact Int32.le_antisymm (count_le_maxValue _) Std.left_le_max

/-- The static count has no say exactly when an active autoscaler has an upper
bound of its own, or a lower bound that nothing exceeds. -/
theorem ceiling_ignores_replicas_iff (spec : MCPGGatewaySpec) :
    (∀ count, effectiveReplicaCeiling { spec with replicas := count } = spec.effectiveReplicaCeiling) ↔
      ∃ a, spec.activeAutoscaler = some a ∧
        (a.maxReplicas.isSome = true ∨ a.minReplicas = some Int32.maxValue) := by
  cases active : spec.activeAutoscaler with
  | none =>
      have inactive : ∀ count, activeAutoscaler { spec with replicas := count } = none := fun _ => active
      simp only [effectiveReplicaCeiling_of_inactive (inactive _)]
      constructor
      · intro ignored
        have zero : (0 : Int32) = spec.replicas := congrArg Prod.fst (ignored 0)
        have one : (1 : Int32) = spec.replicas := congrArg Prod.fst (ignored 1)
        exact absurd (zero.trans one.symm) (by decide)
      · intro ⟨a, present, _⟩
        cases present
  | some a =>
      have alike : ∀ count, activeAutoscaler { spec with replicas := count } = some a := fun _ => active
      simp only [effectiveReplicaCeiling_eq_max (alike _), Prod.mk.injEq, and_true, Option.some.injEq,
        exists_eq_left']
      cases upper : a.maxReplicas with
      | some most => simp
      | none =>
          rw [← lowerBound_eq_maxValue_iff]
          simp only [Option.getD_none, Option.isSome_none, Bool.false_eq_true, false_or]
          constructor
          · intro ignored
            have top : max Int32.maxValue a.lowerBound = Int32.maxValue :=
              Int32.le_antisymm (count_le_maxValue _) Std.left_le_max
            have bottom : max (1 : Int32) a.lowerBound = a.lowerBound := by
              apply Int32.le_antisymm
              · exact Std.max_le_iff.mpr ⟨Std.right_le_max, Int32.le_refl _⟩
              · exact Std.right_le_max
            rw [← bottom, ignored 1, ← ignored Int32.maxValue, top]
          · intro lifted count
            have topped : ∀ other, max other a.lowerBound = Int32.maxValue := by
              intro other
              rw [lifted]
              exact Int32.le_antisymm (count_le_maxValue _) Std.right_le_max
            rw [topped, topped]

/-- What the counts of a gateway have to do with its ceiling. -/
structure CeilingLaws (spec : MCPGGatewaySpec) : Prop where
  /-- The ceiling is the largest count in force. -/
  largest : spec.effectiveReplicaCeiling.1 ∈ spec.countsInForce ∧
    ∀ count ∈ spec.countsInForce, count ≤ spec.effectiveReplicaCeiling.1
  /-- It follows every rescaling of the counts that keeps a single replica. -/
  rescales : ∀ f : Int32 → Int32, (∀ a b, a ≤ b → f a ≤ f b) → f 1 = 1 →
    (spec.rescaled f).effectiveReplicaCeiling =
      (f spec.effectiveReplicaCeiling.1, spec.effectiveReplicaCeiling.2)
  /-- A positive cap on all counts is a cap on the ceiling, and no more. -/
  capped : ∀ cap : Int32, 1 ≤ cap → (spec.cappedAt cap).effectiveReplicaCeiling =
    (if spec.effectiveReplicaCeiling.1 ≤ cap then spec.effectiveReplicaCeiling.1 else cap,
      spec.effectiveReplicaCeiling.2)
  /-- The static count has no say exactly when an active autoscaler has an
  upper bound of its own, or a lower bound that nothing exceeds. -/
  ignores : (∀ count, effectiveReplicaCeiling { spec with replicas := count } =
      spec.effectiveReplicaCeiling) ↔
    ∃ a, spec.activeAutoscaler = some a ∧
      (a.maxReplicas.isSome = true ∨ a.minReplicas = some Int32.maxValue)

theorem ceilingLaws (spec : MCPGGatewaySpec) : spec.CeilingLaws where
  largest := ⟨spec.ceiling_mem_countsInForce, (ceiling_le_iff _).mp (Int32.le_refl _)⟩
  rescales _ monotone unit := effectiveReplicaCeiling_rescaled monotone unit
  capped cap positive := by
    apply effectiveReplicaCeiling_rescaled
    · intro a b ordered
      by_cases below : b ≤ cap
      · rw [if_pos below, if_pos (Int32.le_trans ordered below)]
        exact ordered
      · rw [if_neg below]
        split
        · assumption
        · exact Int32.le_refl cap
    · exact if_pos positive
  ignores := spec.ceiling_ignores_replicas_iff

end MCPGGatewaySpec

end McpgOperatorApi
