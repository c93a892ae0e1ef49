import MetastoreFederation.Metastore.Status
import MetastoreFederation.Request.Call
import MetastoreFederation.Routing.Registry

/-!
Probes of single metastores, and what the probes of many come to by a deadline.
-/

set_option autoImplicit false
set_option relaxedAutoImplicit false

namespace MetastoreFederation.Health

open Metastore Request

/-- What comes of a probe of a metastore that starts now. -/
abbrev Probe := Definition → Outcome Status

/-- The status of a metastore that answers so. -/
def statusOf : Except ClientError Unit → Status
  | .ok () => .available
  | .error _ => .unavailable

/-- The probe that makes a client and asks it whether its metastore is there. -/
def clientProbe {κ : Type} (create : Routing.Factory κ) (clients : κ → Client) : Probe := fun d =>
  match create d with
  | .ok k => (clients k).ping.map statusOf
  | .error _ => .answered 0 .unavailable

/-- When the last of some probes has ended, but at the deadline at the latest. -/
def finish (deadline : Nat) (outcomes : List (Outcome Status)) : Nat :=
  (outcomes.map fun o => min deadline (o.time?.getD deadline)).foldr max 0

/-- The probe answers before the deadline. -/
def inTime (deadline : Nat) : Outcome Status → Bool
  | .answered time _ => time < deadline
  | _ => false

/-- How many probes were started and how many of them answered in time. -/
structure Report where
  total : Nat
  completed : Nat
deriving DecidableEq, Repr

namespace Report

/-- The report on some probes by a deadline. -/
def ofOutcomes (deadline : Nat) (outcomes : List (Outcome Status)) : Report :=
  ⟨outcomes.length, outcomes.countP (inTime deadline)⟩

def pending (r : Report) : Nat := r.total - r.completed

def isComplete (r : Report) : Bool := r.completed == r.total

end Report

theorem finish_le (deadline : Nat) (outcomes : List (Outcome Status)) :
    finish deadline outcomes ≤ deadline := by
  induction outcomes with
  | nil => exact Nat.zero_le _
  | cons o outcomes ih => exact Nat.max_le.2 ⟨Nat.min_le_left .., ih⟩

end MetastoreFederation.Health
