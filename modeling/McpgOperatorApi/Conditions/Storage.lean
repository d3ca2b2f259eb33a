import McpgOperatorApi.Conditions.Runs
import McpgOperatorApi.Wire.Catalogue

namespace McpgOperatorApi

open Collections Serde

/-!
# Stored conditions

A controller does not keep a status in memory.  Each reconcile pass reads the
stored status document, sets its conditions in the list it has read, and
writes the document back.  For all nine status types this loop does to the
documents what `setCondition` does to a list that is never stored.
-/

variable (τ : Type)

/-- A status type: a record type with a list of conditions. -/
structure StatusType : Type 1 where
  name : String
  Carrier : Type
  [derive : Derive Carrier]
  [roundTrips : RoundTrips Carrier]
  conditions : Carrier → List (Condition τ)
  withConditions : List (Condition τ) → Carrier → Carrier
  conditions_withConditions : ∀ list x, conditions (withConditions list x) = list := by
    intro list x; rfl
  withConditions_withConditions : ∀ list other x,
      withConditions list (withConditions other x) = withConditions list x := by
    intro list other x; rfl
  withConditions_conditions : ∀ x, withConditions (conditions x) x = x := by intro x; rfl

attribute [instance] StatusType.derive StatusType.roundTrips

namespace StatusType

/-- The status of a gateway. -/
def gatewayStatus [Rfc3339 τ] [LawfulRfc3339 τ] : StatusType τ where
  name := "MCPGGatewayStatus"
  Carrier := MCPGGatewayStatus τ
  conditions := MCPGGatewayStatus.conditions
  withConditions := fun list x => { x with conditions := list }

/-- The status types of the crate. -/
def all [Rfc3339 τ] [LawfulRfc3339 τ] : List (StatusType τ) :=
  [ gatewayStatus τ,
    { name := "MCPGPluginStatus"
      Carrier := MCPGPluginStatus τ
      conditions := MCPGPluginStatus.conditions
      withConditions := fun list x => { x with conditions := list } },
    { name := "MCPGPluginSetStatus"
      Carrier := MCPGPluginSetStatus τ
      conditions := MCPGPluginSetStatus.conditions
      withConditions := fun list x => { x with conditions := list } },
    { name := "MCPGRevocationListStatus"
      Carrier := MCPGRevocationListStatus τ
      conditions := MCPGRevocationListStatus.conditions
      withConditions := fun list x => { x with conditions := list } },
    { name := "MCPGClusterStatus"
      Carrier := MCPGClusterStatus τ
      conditions := MCPGClusterStatus.conditions
      withConditions := fun list x => { x with conditions := list } },
    { name := "MCPGRouteStatus"
      Carrier := MCPGRouteStatus τ
      conditions := MCPGRouteStatus.conditions
      withConditions := fun list x => { x with conditions := list } },
    { name := "MCPGPluginMirrorStatus"
      Carrier := MCPGPluginMirrorStatus τ
      conditions := MCPGPluginMirrorStatus.conditions
      withConditions := fun list x => { x with conditions := list } },
    { name := "MCPGTenantStatus"
      Carrier := MCPGTenantStatus τ
      conditions := MCPGTenantStatus.conditions
      withConditions := fun list x => { x with conditions := list } },
    { name := "MCPGServerStatus"
      Carrier := MCPGServerStatus τ
      conditions := MCPGServerStatus.conditions
      withConditions := fun list x => { x with conditions := list } } ]

variable {τ} (type : StatusType τ)

/-- Read the stored status, set the conditions of a pass, write it back. -/
def reconcile (pass : List (Condition τ)) (stored : Value) : Option Value :=
  (deserialize (α := type.Carrier) stored).map fun status =>
    serialize (type.withConditions (setConditions (type.conditions status) pass) status)

/-- Reconcile once for each pass. -/
def reconcileAll (passes : List (List (Condition τ))) (stored : Value) : Option Value :=
  passes.foldlM (fun document pass => type.reconcile pass document) stored

/-- The status after setting conditions in memory. -/
def after (calls : List (Condition τ)) (status : type.Carrier) : type.Carrier :=
  type.withConditions (setConditions (type.conditions status) calls) status

theorem after_append (earlier later : List (Condition τ)) (status : type.Carrier) :
    type.after (earlier ++ later) status = type.after later (type.after earlier status) := by
  rw [after, after, after, type.conditions_withConditions, type.withConditions_withConditions,
    setConditions_append]

theorem after_nil (status : type.Carrier) : type.after [] status = status :=
  type.withConditions_conditions status

variable {type}

/-- One pass writes the status that one pass in memory leads to. -/
theorem reconcile_of_decoded {stored : Value} {status : type.Carrier}
    (decoded : deserialize stored = some status) (pass : List (Condition τ)) :
    type.reconcile pass stored = some (serialize (type.after pass status)) := by
  rw [reconcile, decoded, Option.map_some]
  rfl

/-- A run over documents leaves a document of the status after all calls. -/
theorem reconcileAll_of_decoded {stored : Value} {status : type.Carrier}
    (decoded : deserialize stored = some status) (passes : List (List (Condition τ))) :
    ∃ document, type.reconcileAll passes stored = some document ∧
      deserialize document = some (type.after passes.flatten status) := by
  induction passes generalizing stored status with
  | nil => exact ⟨stored, rfl, by rw [List.flatten_nil, after_nil, decoded]⟩
  | cons pass passes ih =>
      have written : deserialize (serialize (type.after pass status)) = some (type.after pass status) :=
        deserialize_serialize _
      rcases ih written with ⟨document, run, final⟩
      refine ⟨document, ?_, ?_⟩
      · rw [reconcileAll, List.foldlM_cons, reconcile_of_decoded decoded]
        exact run
      · rw [final, List.flatten_cons, after_append]

/-- Statuses after calls are told apart by their conditions. -/
theorem after_eq_self_iff (calls : List (Condition τ)) (status : type.Carrier) :
    type.after calls status = status ↔
      setConditions (type.conditions status) calls = type.conditions status := by
  constructor
  · intro same
    have lists := congrArg type.conditions same
    rwa [after, type.conditions_withConditions] at lists
  · intro same
    rw [after, same, type.withConditions_conditions]

/-- A written document is left alone exactly by the passes that leave its
conditions alone. -/
theorem reconcile_serialize_eq_self_iff (pass : List (Condition τ)) (status : type.Carrier) :
    type.reconcile pass (serialize status) = some (serialize status) ↔
      setConditions (type.conditions status) pass = type.conditions status := by
  rw [reconcile_of_decoded (deserialize_serialize status), ← after_eq_self_iff]
  constructor
  · intro same
    have read := deserialize_serialize (type.after pass status)
    rw [Option.some.inj same, deserialize_serialize] at read
    exact (Option.some.inj read).symm
  · intro same
    rw [same]

variable (type) in
/-- How reconciling over stored documents relates to calls in memory. -/
structure StoredLaws : Prop where
  /-- From a readable document, a run never fails.  The document it leaves is
  read as the status in which the calls of all passes were made in a row. -/
  simulates : ∀ {stored : Value} {status : type.Carrier}, deserialize stored = some status →
    ∀ passes : List (List (Condition τ)), ∃ document,
      type.reconcileAll passes stored = some document ∧
        deserialize document = some (type.after passes.flatten status)
  /-- An unreadable document stops every pass. -/
  refuses : ∀ {stored : Value}, deserialize (α := type.Carrier) stored = none →
    ∀ pass passes, type.reconcileAll (pass :: passes) stored = none
  /-- The document that a pass has written survives every repetition of the
  pass at another time exactly when the pass gives each type one status. -/
  settles : ∀ {stored document : Value} {pass : List (Condition τ)},
    type.reconcile pass stored = some document →
      ((∀ again, SamePass pass again → type.reconcile again document = some document) ↔
        ∀ c ∈ pass, ∀ other ∈ pass, c.type = other.type → c.status = other.status)

/-- The laws hold for every status type of the crate. -/
theorem storedLaws_all [Rfc3339 τ] [LawfulRfc3339 τ] [Nontrivial τ] :
    ∀ type ∈ all τ, StoredLaws type := by
  intro type _
  refine
    { simulates := reconcileAll_of_decoded
      refuses := ?_
      settles := ?_ }
  · intro stored unread pass passes
    rw [reconcileAll, List.foldlM_cons, reconcile, unread]
    rfl
  · intro stored document pass written
    rcases Option.map_eq_some_iff.mp written with ⟨status, -, rfl⟩
    simp only [reconcile_serialize_eq_self_iff, type.conditions_withConditions,
      setConditions_eq_upsertAll]
    exact upsertAll_repeated_iff type_refresh (fun _ _ => rfl) (fun _ _ _ => rfl) _ pass

theorem storedLaws_gatewayStatus : StoredLaws (gatewayStatus EarlySecond) := by
  have nontrivial : Nontrivial EarlySecond := ⟨⟨0⟩, ⟨1⟩, by decide⟩
  exact storedLaws_all (gatewayStatus EarlySecond) List.mem_cons_self

end StatusType

end McpgOperatorApi
