import MetastoreFederation.Request.Call

/-!
Gathering answers from many targets at once. Each target has a time limit of its own. The items of
the targets that answer in time come together in the order of the answers; a target that fails, that
is lost or that is late contributes nothing and holds up nothing.
-/

set_option autoImplicit false
set_option relaxedAutoImplicit false

namespace MetastoreFederation.Survey

open Request

variable {α : Type}

/-- One target: how long it is waited for, and what comes of asking it. -/
structure Target (α : Type) where
  limit : Nat
  outcome : Outcome (Except ClientError (List α))

namespace Target

/-- The items of a target that answers in time, with the time of the answer. -/
def arrival? (t : Target α) : Option (Nat × List α) :=
  match t.outcome with
  | .answered time (.ok items) => if time ≤ t.limit then some (time, items) else none
  | _ => none

/-- When waiting for the target is over. -/
def finish (t : Target α) : Nat :=
  match t.outcome.time? with
  | some time => min time t.limit
  | none => t.limit

theorem finish_le (t : Target α) : t.finish ≤ t.limit := by
  unfold finish
  split
  · exact Nat.min_le_right ..
  · exact Nat.le_refl _

end Target

/-- The items that arrive in time, in the order of their arrival. -/
def gather (targets : List (Target α)) : List α :=
  ((targets.filterMap Target.arrival?).mergeSort fun a b => a.1 ≤ b.1).flatMap Prod.snd

/-- When the last target is through. -/
def finish (targets : List (Target α)) : Nat :=
  (targets.map Target.finish).foldr max 0

theorem gather_perm (targets : List (Target α)) :
    (gather targets).Perm ((targets.filterMap Target.arrival?).flatMap Prod.snd) :=
  (List.mergeSort_perm ..).flatMap_right _

theorem finish_le {targets : List (Target α)} {limit : Nat}
    (h : ∀ t ∈ targets, t.limit ≤ limit) : finish targets ≤ limit := by
  induction targets with
  | nil => exact Nat.zero_le _
  | cons t targets ih =>
    exact Nat.max_le.2 ⟨Nat.le_trans t.finish_le (h t List.mem_cons_self),
      ih fun u hu => h u (List.mem_cons_of_mem _ hu)⟩

end MetastoreFederation.Survey
