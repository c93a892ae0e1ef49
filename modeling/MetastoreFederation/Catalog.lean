import MetastoreFederation.Routing.Admission
import MetastoreFederation.Routing.Table
import MetastoreFederation.Survey

/-!
The catalog that callers see. A request on one database is resolved and checked, and then forwarded
to its metastore under the local name of the database; listings go to all available metastores.
-/

set_option autoImplicit false
set_option relaxedAutoImplicit false

namespace MetastoreFederation.Catalog

open Metastore Request Routing

variable {κ α : Type}

/-- A request on one database: the table after it, the calls that it made and what came of it. -/
structure Served (κ α : Type) where
  table : Table κ
  calls : List (κ × Call)
  outcome : Outcome (Except Error α)

/-- A request that ends before any call. -/
def refused (t : Table κ) (e : Error) : Served κ α :=
  ⟨t, [], .answered 0 (.error e)⟩

/-- Makes one call through a binding. `read` takes from its answer what the caller gets. -/
def forward (clients : κ → Client) (t : Table κ) (b : Binding κ) (c : Call)
    (read : c.Answer → α) : Served κ α :=
  ⟨t, [(b.client, c)], ((clients b.client).call c).map fun result =>
    (result.map read).mapError fun e => .backend (.ofClient b.name e)⟩

/-- Resolves a name, checks the access, and goes on with the binding and the table after that. -/
def serve (t : Table κ) (database : String) (table : Option String) (access : Access)
    (next : Binding κ → Table κ → Served κ α) : Served κ α :=
  match t.resolve database with
  | .error e => refused t (.routing e)
  | .ok (b, t) =>
    match checkAllowed t.created b database table access with
    | .error e => refused t (.access e)
    | .ok () => next b t

/-- The visible tables of a database, in the order of its metastore. -/
def allTables (clients : κ → Client) (t : Table κ) (database : String) :
    Served κ (List String) :=
  let name := Pattern.Qualifier.strip database
  serve t name none .read fun b t =>
    forward clients t b (.allTables (b.inbound name)) (visibleTables b name)

/-- Forwards a request to the metastore that serves its database. -/
def execute (clients : κ → Client) (t : Table κ) (request : Operation) :
    Served κ Document.Datum :=
  let name := Pattern.Qualifier.strip request.database
  serve t name request.table request.access fun b t =>
    forward clients t b (.execute { request with database := b.inbound name }) id

/-- The request that creates a database, by its local name. -/
def creation (database : String) (payload : Document.Datum) : Operation :=
  { operation := "create_database", database, access := .write, payload }

/-- Creates a database at the primary, and remembers it where the primary answers without error. -/
def createDatabase (clients : κ → Client) (t : Table κ) (database : String)
    (payload : Document.Datum) : Served κ Document.Datum :=
  match t.resolvePrimary with
  | .error e => refused t (.routing e)
  | .ok (b, t) =>
    if !b.gate.mayCreate then refused t (.access (.createNotPermitted b.name))
    else
      let name := b.inbound (Pattern.Qualifier.strip database)
      let served := forward clients t b (.execute (creation name payload)) id
      match served.outcome with
      | .answered _ (.ok _) => { served with table := { t with created := t.created.note b name } }
      | _ => served

/-- A survey of the available metastores, and the table after it. -/
def survey (statuses : StatusBoard) (timeout : Nat) (t : Table κ) : Survey κ × Table κ :=
  (⟨t.available statuses, timeout, .under t.resolution, Binding.showsDatabase⟩,
    { t with usage := t.usage.record Usage.everyone })

end MetastoreFederation.Catalog
