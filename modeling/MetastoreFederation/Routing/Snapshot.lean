import MetastoreFederation.Metastore.Binding

/-!
Snapshots of what is registered. Beside the bindings in the order of their registration, a snapshot
keeps what is needed to find the owner of a name: the bindings with a prefix, longest prefix first,
and the owner of each database that a definition lists. A name without an owner is the primary's.
-/

set_option autoImplicit false
set_option relaxedAutoImplicit false

namespace MetastoreFederation.Routing

open Metastore Text

variable {κ : Type}

/-- What is registered at one moment. -/
structure Snapshot (κ : Type) where
  bindings : List (Binding κ)
  primary : Option (Binding κ)
  /-- The bindings with a prefix, longer prefixes first. -/
  byPrefix : List (Binding κ)
  /-- The listed databases in lower case with their owners, latest first. -/
  byDatabase : List (String × Binding κ)

namespace Snapshot

def empty : Snapshot κ := ⟨[], none, [], []⟩

/-- The length of a prefix in UTF-8. -/
def prefixSize (b : Binding κ) : Nat := b.databasePrefix.utf8ByteSize

/-- The databases that a binding owns by their name, in lower case. -/
def ownedNames (b : Binding κ) : List String :=
  if b.isPrimary then [] else b.definition.listedDatabases.map Lowercase.lower

/-- The snapshot of registered bindings. -/
def build (bindings : List (Binding κ)) : Snapshot κ where
  bindings := bindings
  primary := bindings.find? Binding.isPrimary
  byPrefix := (bindings.filter fun b => b.databasePrefix != "").mergeSort
    fun a b => prefixSize b ≤ prefixSize a
  byDatabase := (bindings.flatMap fun b => (ownedNames b).map fun name => (name, b)).reverse

/-- The binding whose prefix begins the name, the longest such prefix. -/
def ownerByPrefix? (s : Snapshot κ) (database : String) : Option (Binding κ) :=
  s.byPrefix.find? fun b => (AsciiCase.dropStartOf? b.databasePrefix database).isSome

/-- The binding that lists the name. -/
def ownerByDatabase? (s : Snapshot κ) (database : String) : Option (Binding κ) :=
  s.byDatabase.lookup (Lowercase.lower database)

/-- The binding of a metastore. -/
def find? (s : Snapshot κ) (name : String) : Option (Binding κ) :=
  s.bindings.find? fun b => b.name == name

def definitions (s : Snapshot κ) : List Definition := s.bindings.map Binding.definition

/-- The binding that owns a name under a way of resolution. -/
def owner? (s : Snapshot κ) (resolution : Resolution) (database : String) : Option (Binding κ) :=
  match resolution with
  | .prefixed => s.ownerByPrefix? database
  | .manual => s.ownerByDatabase? database

/-- The binding that serves a name: its owner, else the primary. -/
def serving (s : Snapshot κ) (resolution : Resolution) (database : String) :
    Except RoutingError (Binding κ) :=
  match (s.owner? resolution database).or s.primary with
  | some b => .ok b
  | none => .error (.noPrimary database)

end Snapshot

end MetastoreFederation.Routing
