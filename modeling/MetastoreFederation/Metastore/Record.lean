import MetastoreFederation.Document.Datum
import MetastoreFederation.Metastore.Definition

/-!
Definitions as records of documents: how one is read from any source, and how it is written. Fields
that say what is the case without them are left out, except for the role, the policy and the
latency.
-/

set_option autoImplicit false
set_option relaxedAutoImplicit false

namespace MetastoreFederation.Metastore

open Document

variable {ν : Type} [Source ν]

def Role.read (v : ν) : Except DataError Role := Source.variant Role.names v

def Policy.read (v : ν) : Except DataError Policy := Source.variant Policy.names v

/-- The record of a table rule. -/
def TableRule.record : RecordType ν TableRule where
  title := "MappedTables"
  blank := ⟨"", []⟩
  fields := [
    ⟨"database", true, fun v r => do return { r with database := ← readText v }⟩,
    ⟨"mapped-tables", true, fun v r => do return { r with tables := ← readList readText v }⟩]

/-- Reads the entries of an alias table; of two entries for a database the later one counts. -/
def AliasTable.read (v : ν) : Except DataError AliasTable := do
  let entries ← (← Source.entries v).mapM fun (name, surfaced) => do
    return (← readText name, ← readText surfaced)
  return AliasTable.ofList entries

namespace Definition

/-- The record of a definition. -/
def record : RecordType ν Definition where
  title := "MetaStore"
  blank := { name := "", addresses := "" }
  fields := [
    ⟨"name", true, fun v d => do return { d with name := ← readText v }⟩,
    ⟨"federation-type", false, fun v d => do return { d with role := ← Role.read v }⟩,
    ⟨"remote-meta-store-uris", true, fun v d => do return { d with addresses := ← readText v }⟩,
    ⟨"database-prefix", false,
      fun v d => do return { d with explicitPrefix := ← readOption readText v }⟩,
    ⟨"access-control-type", false, fun v d => do return { d with policy := ← Policy.read v }⟩,
    ⟨"writable-database-white-list", false,
      fun v d => do return { d with whitelist := ← readList readText v }⟩,
    ⟨"mapped-databases", false,
      fun v d => do return { d with visibleDatabases := ← readOption (readList readText) v }⟩,
    ⟨"mapped-tables", false,
      fun v d => do return { d with tableRules := ← readList TableRule.record.read v }⟩,
    ⟨"database-name-mapping", false,
      fun v d => do return { d with aliases := ← AliasTable.read v }⟩,
    ⟨"latency", false,
      fun v d => do return { d with latency := UInt64.ofNat (← Source.natural v) }⟩]

/-- Reads a definition. -/
def read (v : ν) : Except DataError Definition := record.read v

def textItems (texts : List String) : Datum := .items (texts.map .text)

def entryUnless (absent : Bool) (name : String) (v : Datum) : List (String × Datum) :=
  if absent then [] else [(name, v)]

def ruleDatum (r : TableRule) : Datum :=
  .fields [("database", .text r.database), ("mapped-tables", textItems r.tables)]

/-- The definition as a record, its fields in their usual order. -/
def toDatum (d : Definition) : Datum :=
  .fields <|
    [("name", .text d.name), ("federation-type", .text d.role.name),
      ("remote-meta-store-uris", .text d.addresses)] ++
    entryUnless d.explicitPrefix.isNone "database-prefix" (.text (d.explicitPrefix.getD "")) ++
    [("access-control-type", .text d.policy.name)] ++
    entryUnless d.whitelist.isEmpty "writable-database-white-list" (textItems d.whitelist) ++
    entryUnless d.visibleDatabases.isNone "mapped-databases" (textItems d.listedDatabases) ++
    entryUnless d.tableRules.isEmpty "mapped-tables" (.items (d.tableRules.map ruleDatum)) ++
    entryUnless d.aliases.isEmpty "database-name-mapping"
      (.fields (d.aliases.entries.map fun e => (e.1, .text e.2))) ++
    [("latency", .integer d.latency.toNat)]

end Definition

end MetastoreFederation.Metastore
