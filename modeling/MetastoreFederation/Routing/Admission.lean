import MetastoreFederation.Metastore.CreatedBoard
import MetastoreFederation.Pattern.Qualifier
import MetastoreFederation.Request.Call

/-!
Admission of requests at a binding: whether its gate lets a write pass, and whether the database and
the table are visible there. The rules are about local names; a caller's name is made local first.
-/

set_option autoImplicit false
set_option relaxedAutoImplicit false

namespace MetastoreFederation.Routing

open Metastore Request

variable {κ : Type}

/-- Whether the gate of a binding lets the access pass. The database is given by its local name. -/
def checkGate (created : CreatedBoard) (b : Binding κ) (access : Access) (database : String) :
    Except AccessError Unit :=
  if access = .write ∧ !created.mayWrite b database then
    match b.gate.policy with
    | .readOnly => .error (.readOnly b.name database)
    | _ => .error (.notWhitelisted b.name database)
  else .ok ()

/-- Whether a database, by its local name, and a table in it are visible. -/
def checkVisible (b : Binding κ) (database : String) (table : Option String) :
    Except AccessError Unit :=
  if !b.showsDatabase database then .error (.databaseNotMapped b.name database)
  else
    match table with
    | none => .ok ()
    | some table =>
      if b.showsTable database table then .ok ()
      else .error (.tableNotMapped b.name database table)

/-- Whether a caller may have access to a database, and to a table in it, by a name that leads to
the binding. -/
def checkAllowed (created : CreatedBoard) (b : Binding κ) (database : String)
    (table : Option String) (access : Access) : Except AccessError Unit := do
  let localName := b.inbound (Pattern.Qualifier.strip database)
  checkGate created b access localName
  checkVisible b localName table

/-- The visible ones among the tables of a database, by a name that leads to the binding. -/
def visibleTables (b : Binding κ) (database : String) (tables : List String) : List String :=
  let localName := b.inbound (Pattern.Qualifier.strip database)
  tables.filter (b.showsTable localName)

end MetastoreFederation.Routing
