import MetastoreFederation.Metastore.Compatibility
import MetastoreFederation.Routing.Snapshot

/-!
The registry of bindings. Every change makes a whole new snapshot of what is registered; a change
that is refused makes none.
-/

set_option autoImplicit false
set_option relaxedAutoImplicit false

namespace MetastoreFederation.Routing

open Metastore

variable {κ : Type}

/-- How clients are made for definitions. -/
abbrev Factory (κ : Type) := Definition → Except ClientError κ

/-- The registered bindings, and the identity that the next one gets. -/
structure Registry (κ : Type) where
  resolution : Resolution
  snapshot : Snapshot κ
  nextId : Nat

namespace Registry

/-- The registry of nothing. -/
def empty (resolution : Resolution) : Registry κ := ⟨resolution, .empty, 0⟩

/-- Binds an entry to a new client. -/
def bind (r : Registry κ) (create : Factory κ) (e : Entry) :
    Except RegistrationError (Binding κ) := do
  let client ← (create e.definition).mapError (RegistrationError.client e.name)
  Binding.make r.resolution r.nextId e client

/-- The registry with other bindings. No identity is given twice. -/
def publish (r : Registry κ) (bindings : List (Binding κ)) : Registry κ :=
  { r with snapshot := .build bindings, nextId := r.nextId + 1 }

/-- Adds an entry. Nothing changes where one with an equal definition is registered. -/
def register (create : Factory κ) (r : Registry κ) (e : Entry) :
    Except RegistrationError (Registry κ) :=
  match r.snapshot.find? e.name with
  | some existing =>
    if existing.definition = e.definition then .ok r else .error (.duplicateName e.name)
  | none => do
    checkCompatible r.resolution r.snapshot.definitions e.definition
    let binding ← r.bind create e
    return r.publish (r.snapshot.bindings ++ [binding])

/-- Puts an entry in the place of the metastore registered as `old`. -/
def update (create : Factory κ) (r : Registry κ) (old : String) (e : Entry) :
    Except RegistrationError (Registry κ) :=
  match r.snapshot.find? old with
  | none => .error (.notRegistered old)
  | some replaced =>
    if replaced.definition.role ≠ e.definition.role then .error (.roleChange old)
    else do
      let others := r.snapshot.definitions.filter fun d => d.name != old
      checkCompatible r.resolution others e.definition
      let binding ← r.bind create e
      return r.publish (r.snapshot.bindings.map fun b => if b.name = old then binding else b)

/-- Removes a metastore that is not the primary. -/
def unregister (r : Registry κ) (name : String) : Except RegistrationError (Registry κ) :=
  match r.snapshot.find? name with
  | none => .error (.notRegistered name)
  | some b =>
    if b.isPrimary then .error (.primaryUnregister name)
    else .ok (r.publish (r.snapshot.bindings.filter fun b => b.name != name))

end Registry

end MetastoreFederation.Routing
