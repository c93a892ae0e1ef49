import MetastoreFederation.Metastore.CreatedBoard
import MetastoreFederation.Pattern.Qualifier
import MetastoreFederation.Routing.Registry
import MetastoreFederation.Routing.Usage

/-!
The routing table: which metastore serves a name. Names may come with a catalog qualifier. Each name
that is resolved counts as use of its metastore.
-/

set_option autoImplicit false
set_option relaxedAutoImplicit false

namespace MetastoreFederation.Routing

open Metastore

variable {κ : Type}

/-- The registered metastores, what was created through them, and how often each was used. -/
structure Table (κ : Type) where
  registry : Registry κ
  created : CreatedBoard
  usage : Usage

namespace Table

/-- The table of no metastore. -/
def empty (resolution : Resolution) : Table κ := ⟨.empty resolution, .empty, .empty⟩

/-- The registered bindings, in the order of their registration. -/
def bindings (t : Table κ) : List (Binding κ) := t.registry.snapshot.bindings

def resolution (t : Table κ) : Resolution := t.registry.resolution

/-- The bindings of metastores that are not known to be away. -/
def available (statuses : StatusBoard) (t : Table κ) : List (Binding κ) :=
  t.bindings.filter fun b => b.isAvailable statuses

/-- Counts a use of a binding's metastore. -/
def countUse (t : Table κ) (b : Binding κ) : Table κ :=
  { t with usage := t.usage.record b.name }

/-- The binding that serves a name, and the table after its use. -/
def resolve (t : Table κ) (database : String) : Except RoutingError (Binding κ × Table κ) := do
  let b ← t.registry.snapshot.serving t.resolution (Pattern.Qualifier.strip database)
  return (b, t.countUse b)

/-- The primary, and the table after its use. -/
def resolvePrimary (t : Table κ) : Except RoutingError (Binding κ × Table κ) :=
  match t.registry.snapshot.primary with
  | some b => .ok (b, t.countUse b)
  | none => .error .primaryNotConfigured

end Table

end MetastoreFederation.Routing
