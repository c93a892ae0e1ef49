import MetastoreFederation.Pattern.Decompose
import MetastoreFederation.Pattern.Expression
import MetastoreFederation.Request.Call

/-!
Metastores in memory: a fixed set of databases, and a way to behave that all calls have in common.
The metastore answers at once, late or never, and may fail in each of the ways in which a client
can.
-/

set_option autoImplicit false
set_option relaxedAutoImplicit false

namespace MetastoreFederation

open Request Document Pattern

/-- What becomes of the calls to a metastore in memory. -/
inductive InMemory.Behavior
  | answers
  | refuses
  | breaks
  | timesOut (millis : Nat)
  | hangs
  | dies
  | delays (millis : Nat)
deriving DecidableEq, Repr

/-- A metastore in memory. -/
structure InMemory where
  name : String
  /-- The databases in the order of their names, with the summaries of their tables. -/
  databases : List (String × List TableMeta)
  /-- The groups that a user is in, if not those that were announced. -/
  groups : Option (List String)
  behavior : InMemory.Behavior

namespace InMemory

/-- What comes of a call that would be answered so. -/
def perform {α : Type} (m : InMemory) (result : Except ClientError α) :
    Outcome (Except ClientError α) :=
  match m.behavior with
  | .answers => .answered 0 result
  | .refuses => .answered 0 (.error (.connection (m.name ++ " refused connection")))
  | .breaks => .answered 0 (.error (.remote (m.name ++ " is broken")))
  | .timesOut millis => .answered 0 (.error (.timeout millis))
  | .hangs => .silent
  | .dies => .lost 0
  | .delays millis => .answered millis result

/-- The databases that some clause of a pattern covers. -/
def matching (m : InMemory) (pattern : String) : List (String × List TableMeta) :=
  m.databases.filter fun d => Decompose.matchesSome pattern d.1

/-- How a request comes back: as it was received, with the name of the metastore. -/
def receipt (m : InMemory) (r : Operation) : Datum :=
  .fields [("metastore", .text m.name), ("operation", .text r.operation),
    ("database", .text r.database), ("table", (r.table.map Datum.text).getD .null),
    ("kind", .text r.access.name), ("payload", r.payload)]

/-- The answer to a call. -/
def answer (m : InMemory) : (c : Call) → Except ClientError c.Answer
  | .allDatabases => .ok (m.databases.map Prod.fst)
  | .databases none => .ok (m.databases.map Prod.fst)
  | .databases (some pattern) => .ok ((m.matching pattern).map Prod.fst)
  | .allTables database =>
    match m.databases.lookup database with
    | some tables => .ok (tables.map TableMeta.table)
    | none => .error (.remote ("NoSuchObjectException: " ++ database))
  | .tableMeta databasePattern tablePattern types =>
    .ok <| ((m.matching databasePattern).flatMap Prod.snd).filter fun t =>
      Glob.matchesName tablePattern t.table && (types.isEmpty || types.contains t.type)
  | .setGroups _ groups => .ok (m.groups.getD groups)
  | .execute request => .ok (m.receipt request)

/-- The client of a metastore in memory. -/
def client (m : InMemory) : Client where
  call c := m.perform (m.answer c)
  ping := m.perform (.ok ())

end InMemory

end MetastoreFederation
