import MetastoreFederation.Document.Datum

/-!
Summaries of tables as listings give them, and how a summary is read and written.
-/

set_option autoImplicit false
set_option relaxedAutoImplicit false

namespace MetastoreFederation.Request

open Document

/-- What a listing says of one table. -/
structure TableMeta where
  database : String
  table : String
  type : String
  comments : Option String := none
deriving DecidableEq, Repr

namespace TableMeta

variable {ν : Type} [Source ν]

/-- The record of a summary. -/
def record : RecordType ν TableMeta where
  title := "TableMeta"
  blank := ⟨"", "", "", none⟩
  fields := [
    ⟨"dbName", true, fun v m => do return { m with database := ← readText v }⟩,
    ⟨"tableName", true, fun v m => do return { m with table := ← readText v }⟩,
    ⟨"tableType", true, fun v m => do return { m with type := ← readText v }⟩,
    ⟨"comments", false, fun v m => do return { m with comments := ← readOption readText v }⟩]

/-- Reads a summary. -/
def read (v : ν) : Except DataError TableMeta := record.read v

/-- The summary as a record; comments are left out where there are none. -/
def toDatum (m : TableMeta) : Datum :=
  .fields <|
    [("dbName", .text m.database), ("tableName", .text m.table), ("tableType", .text m.type)] ++
      m.comments.toList.map fun text => ("comments", .text text)

end TableMeta

end MetastoreFederation.Request
