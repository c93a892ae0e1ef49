import MetastoreFederation.Administration.Announcement
import MetastoreFederation.Metastore.Compatibility
import MetastoreFederation.Metastore.Inventory

/-!
Administration of the set of metastores. A change is checked against the inventory, told to the
listeners one after another, and made in the inventory. Where a listener refuses, nothing is changed
there.
-/

set_option autoImplicit false
set_option relaxedAutoImplicit false

namespace MetastoreFederation

open Metastore

variable {σ : Type}

/-- The inventory, and who is told of changes to it. -/
structure Administration (σ : Type) where
  resolution : Resolution
  inventory : Inventory
  listeners : List σ

/-- A change that was asked for: the administration after it, the notifications, and whether it was
refused. -/
structure Administration.Change (σ : Type) where
  after : Administration σ
  notices : List Notice
  result : Except RegistrationError Unit

namespace Administration

/-- The definitions under other names. -/
def others (a : Administration σ) (name : String) : List Definition :=
  a.inventory.definitions.filter fun d => d.name != name

/-- A change that comes to nothing. -/
def unchanged (a : Administration σ) (result : Except RegistrationError Unit) : Change σ :=
  ⟨a, [], result⟩

/-- Tells the listeners of a change, and makes it if none refuses. -/
def commit (notify : Notify σ) (a : Administration σ) (event opposite : Event)
    (make : Inventory → Inventory) : Change σ :=
  let told := tell notify event opposite a.listeners
  match told.result with
  | .ok _ =>
    ⟨{ a with inventory := make a.inventory, listeners := told.listeners }, told.notices, .ok ()⟩
  | .error cause => ⟨{ a with listeners := told.listeners }, told.notices, .error cause⟩

/-- The administration after the identity of the next entry was given away. -/
def advance (a : Administration σ) : Administration σ :=
  { a with inventory := a.inventory.advance }

/-- Adds a metastore. Nothing changes where the same definition is there already. -/
def register (notify : Notify σ) (a : Administration σ) (d : Definition) : Change σ :=
  match a.inventory.find? d.name with
  | some existing =>
    a.unchanged (if existing.definition = d then .ok () else .error (.duplicateName d.name))
  | none =>
    match checkCompatible a.resolution (a.others d.name) d with
    | .error cause => a.unchanged (.error cause)
    | .ok () =>
      let e := a.inventory.newEntry d
      a.advance.commit notify (.register e) (.unregister d.name) fun s => s.insert e

/-- Puts a definition in the place of the one named `old`. Nothing changes where the two are equal.
-/
def update (notify : Notify σ) (a : Administration σ) (old : String) (d : Definition) : Change σ :=
  match a.inventory.find? old with
  | none => a.unchanged (.error (.notRegistered old))
  | some current =>
    if current.definition.role ≠ d.role then a.unchanged (.error (.roleChange old))
    else if current.definition = d then a.unchanged (.ok ())
    else
      match checkCompatible a.resolution (a.others old) d with
      | .error cause => a.unchanged (.error cause)
      | .ok () =>
        let e := a.inventory.newEntry d
        a.advance.commit notify (.update old e) (.update d.name current) fun s => s.replace old e

/-- Removes a metastore that is not the primary. -/
def unregister (notify : Notify σ) (a : Administration σ) (name : String) : Change σ :=
  match a.inventory.find? name with
  | none => a.unchanged (.error (.notRegistered name))
  | some current =>
    if current.definition.isPrimary then a.unchanged (.error (.primaryUnregister name))
    else a.commit notify (.unregister name) (.register current) fun s => s.remove name

/-- The definition under a name, with its status. -/
def get (a : Administration σ) (name : String) : Except RegistrationError View :=
  match a.inventory.find? name with
  | some e => .ok (a.inventory.view e)
  | none => .error (.notRegistered name)

/-- All definitions with their statuses. -/
def getAll (a : Administration σ) : List View :=
  a.inventory.entries.map a.inventory.view

end Administration

end MetastoreFederation
