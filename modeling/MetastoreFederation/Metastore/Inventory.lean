import MetastoreFederation.Metastore.Status

/-!
The inventory of a federation: its entries with their statuses. The entries that it starts with
have the primaries first, and an entry that replaces another takes its place.
-/

set_option autoImplicit false
set_option relaxedAutoImplicit false

namespace MetastoreFederation.Metastore

/-- Replaces the first element for which `p` holds. -/
def replaceFirst {α : Type} (p : α → Bool) (new : α) : List α → List α
  | [] => []
  | a :: rest => if p a then new :: rest else a :: replaceFirst p new rest

/-- The entries with their statuses, and the identity that the next entry gets. -/
structure Inventory where
  entries : List Entry
  nextId : Nat
  statuses : StatusBoard

namespace Inventory

/-- The inventory of some definitions: primaries first, else in the given order. -/
def ofDefinitions (definitions : List Definition) : Inventory :=
  let entries := definitions.zipIdx.map fun (d, id) => Entry.mk id d
  ⟨entries.filter (fun e => e.definition.isPrimary) ++
      entries.filter fun e => !e.definition.isPrimary,
    definitions.length, .empty⟩

def definitions (i : Inventory) : List Definition := i.entries.map Entry.definition

/-- The first entry under a name. -/
def find? (i : Inventory) (name : String) : Option Entry :=
  i.entries.find? fun e => e.name == name

/-- A new entry for a definition, which is not in the inventory yet. -/
def newEntry (i : Inventory) (d : Definition) : Entry := ⟨i.nextId, d⟩

/-- The inventory after an identity was given away. -/
def advance (i : Inventory) : Inventory := { i with nextId := i.nextId + 1 }

/-- Adds an entry, a primary before all others. -/
def insert (i : Inventory) (e : Entry) : Inventory :=
  { i with entries := if e.definition.isPrimary then e :: i.entries else i.entries ++ [e] }

/-- Puts an entry in the place of the first one under a name. -/
def replace (i : Inventory) (name : String) (e : Entry) : Inventory :=
  { i with entries := replaceFirst (fun old => old.name == name) e i.entries }

/-- Removes the first entry under a name. -/
def remove (i : Inventory) (name : String) : Inventory :=
  { i with entries := i.entries.eraseP fun e => e.name == name }

/-- Records the status of an entry. -/
def record (i : Inventory) (id : Nat) (status : Status) : Inventory :=
  { i with statuses := i.statuses.record id status }

def status (i : Inventory) (e : Entry) : Status := i.statuses.status e.id

def view (i : Inventory) (e : Entry) : View := i.statuses.view e

end Inventory

end MetastoreFederation.Metastore
