import MetastoreFederation.Document.Datum
import MetastoreFederation.Error
import MetastoreFederation.Request.TableMeta

/-!
Calls to a single metastore. A client is known by what comes of each call: an answer after some
time, the loss of the call, or nothing ever. Clients do not depend on one another and know nothing
of the federation.
-/

set_option autoImplicit false
set_option relaxedAutoImplicit false

namespace MetastoreFederation.Request

/-- What a request does to the database it names. -/
inductive Access
  | read
  | write
deriving DecidableEq, Repr, Inhabited

def Access.name : Access → String
  | .read => "read"
  | .write => "write"

/-- A request to one database. Its operation and its payload mean something to the metastore only.
-/
structure Operation where
  operation : String
  database : String
  table : Option String := none
  access : Access := .read
  payload : Document.Datum := .null
deriving Inhabited

/-- What a client can be asked. -/
inductive Call
  | allDatabases
  | databases (pattern : Option String)
  | allTables (database : String)
  | tableMeta (databasePattern tablePattern : String) (types : List String)
  | setGroups (user : String) (groups : List String)
  | execute (request : Operation)

/-- What a call is answered with. -/
def Call.Answer : Call → Type
  | allDatabases | databases _ | allTables _ | setGroups .. => List String
  | tableMeta .. => List TableMeta
  | execute _ => Document.Datum

/-- What comes of something asked, times counted in milliseconds from its start. -/
inductive Outcome (α : Type)
  | answered (time : Nat) (answer : α)
  | lost (time : Nat)
  | silent
deriving DecidableEq, Repr

namespace Outcome

variable {α β : Type}

instance : Inhabited (Outcome α) := ⟨.silent⟩

/-- When it ends, if it does. -/
def time? : Outcome α → Option Nat
  | answered time _ => some time
  | lost time => some time
  | silent => none

/-- The outcome with what is made of the answer. -/
def map (f : α → β) : Outcome α → Outcome β
  | answered time answer => answered time (f answer)
  | lost time => lost time
  | silent => silent

/-- The outcome for someone who does not wait beyond a limit. -/
def within (limit : Nat) (o : Outcome α) : Outcome α :=
  match o.time? with
  | some time => if time ≤ limit then o else silent
  | none => silent

@[simp] theorem time?_map (f : α → β) (o : Outcome α) : (o.map f).time? = o.time? := by
  cases o <;> rfl

end Outcome

/-- What comes of each call to a metastore, and of asking whether it is there. -/
structure Client where
  call (c : Call) : Outcome (Except ClientError c.Answer)
  ping : Outcome (Except ClientError Unit)

/-- The client for someone who gives up every call at a limit. -/
def Client.within (limit : Nat) (c : Client) : Client :=
  ⟨fun call => (c.call call).within limit, c.ping.within limit⟩

end MetastoreFederation.Request
