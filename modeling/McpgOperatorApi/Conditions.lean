import McpgOperatorApi.Serde.Derive

namespace McpgOperatorApi

open Serde

variable {τ : Type}

/-!
# Status conditions

Every status carries a list of conditions.  A condition remembers the time of
its last transition; `setCondition` keeps that time while the status stays
the same.  Times are values of a parameter type.
-/

/-- One status condition. -/
structure Condition (τ : Type) where
  type : String
  status : String
  reason : String
  message : String
  lastTransitionTime : τ
  observedGeneration : Option Int64
deriving Inhabited

instance [Rfc3339 τ] : Derive (Condition τ) where
  Row := _
  fields := .required "type" <| .required "status" <| .required "reason" <| .text "message" <|
    .required "last_transition_time" <| .optional "observed_generation" .nil
  toRow x := (x.type, x.status, x.reason, x.message, x.lastTransitionTime, x.observedGeneration,
    ())
  ofRow := fun (type, status, reason, message, lastTransitionTime, observedGeneration, ()) =>
    { type, status, reason, message, lastTransitionTime, observedGeneration }

instance [Rfc3339 τ] : DistinctKeys (Condition τ) where

instance [Rfc3339 τ] [LawfulRfc3339 τ] : RoundTrips (Condition τ) :=
  roundTrips_of_lossless _

/-- Build a condition at the time `now`. -/
def Condition.new (type status reason message : String) (observedGeneration : Option Int64)
    (now : τ) : Condition τ :=
  { type, status, reason, message, lastTransitionTime := now, observedGeneration }

/-- Build a `True` condition. -/
def Condition.readyTrue (reason : String) (now : τ) : Condition τ :=
  .new "Ready" "True" reason "" none now

/-- Build a `False` condition. -/
def Condition.readyFalse (reason message : String) (now : τ) : Condition τ :=
  .new "Ready" "False" reason message none now

/-- Set or update a condition in a list.  The first condition of the same
type is replaced in place; without one, the condition is appended. -/
def setCondition (conditions : List (Condition τ)) (new : Condition τ) : List (Condition τ) :=
  match conditions.findIdx? (fun c => c.type == new.type) with
  | some i =>
      conditions.modify i fun existing =>
        if existing.status = new.status then
          { new with lastTransitionTime := existing.lastTransitionTime }
        else new
  | none => conditions ++ [new]

end McpgOperatorApi
