import MetastoreFederation.Routing.Table

/-!
Events: the changes to the set of metastores as others are told of them. A routing table takes them
over into its registry. An observer only looks on, and refuses what it does not like.
-/

set_option autoImplicit false
set_option relaxedAutoImplicit false

namespace MetastoreFederation

open Metastore

/-- A change to the set of metastores. -/
inductive Event
  | register (entry : Entry)
  | update (old : String) (entry : Entry)
  | unregister (name : String)

namespace Event

/-- The kind of a change, by its name. -/
def kind : Event → String
  | register _ => "register"
  | update .. => "update"
  | unregister _ => "unregister"

/-- The name of the metastore after the change, or before it was removed. -/
def subject : Event → String
  | register e => e.name
  | update _ e => e.name
  | unregister name => name

end Event

variable {κ : Type}

namespace Routing.Table

/-- Takes a change over into the registry. -/
def notify (create : Factory κ) (t : Table κ) : Event → Except RegistrationError (Table κ)
  | .register e => do return { t with registry := ← t.registry.register create e }
  | .update old e => do return { t with registry := ← t.registry.update create old e }
  | .unregister name => do return { t with registry := ← t.registry.unregister name }

end Routing.Table

/-- One that is told of changes: a routing table, or an observer that keeps nothing. -/
inductive Listener (κ : Type)
  | routing (table : Routing.Table κ)
  | observer (label : String) (refuses : Event → Bool)

namespace Listener

/-- Tells a listener of a change. -/
def notify (create : Routing.Factory κ) : Listener κ → Event →
    Except RegistrationError (Listener κ)
  | routing table, event => do return routing (← table.notify create event)
  | observer label refuses, event =>
    if refuses event then
      .error (.invalidDefinition event.subject (label ++ " refuses " ++ event.kind))
    else .ok (observer label refuses)

/-- The routing table of a listener that is one. -/
def table? : Listener κ → Option (Routing.Table κ)
  | routing table => some table
  | observer .. => none

end Listener

end MetastoreFederation
