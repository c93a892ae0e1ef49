import MetastoreFederation.Error
import MetastoreFederation.Metastore.AliasTable.Naming
import MetastoreFederation.Metastore.Gate
import MetastoreFederation.Metastore.Status
import MetastoreFederation.Resolution
import MetastoreFederation.Text.AsciiCase

/-!
Bindings: an entry bound to a client, ready to serve. A binding knows the names of its databases on
both sides, in the federation and at the metastore, and what of the metastore is visible. It has an
identity of its own, under which the databases are kept that were created through it.
-/

set_option autoImplicit false
set_option relaxedAutoImplicit false

namespace MetastoreFederation.Metastore

open Text

/-- The tables of a database that are visible, the database in lower case. -/
structure TableFilter where
  database : String
  tables : List Regex.Expr

/-- The filter of a rule, if each of its entries is an expression. -/
def TableRule.filter? (r : TableRule) : Option TableFilter :=
  (r.tables.mapM Regex.parseEntry?).map fun tables => ⟨Lowercase.lower r.database, tables⟩

/-- An entry bound to a client. -/
structure Binding (κ : Type) where
  id : Nat
  entry : Entry
  client : κ
  /-- What stands before the names of the metastore's databases in the federation. -/
  databasePrefix : String
  gate : Gate
  tableFilters : List TableFilter

namespace Binding

variable {κ : Type}

/-- The prefix of a definition under a way of resolution. -/
def prefixUnder (resolution : Resolution) (d : Definition) : String :=
  match resolution with
  | .prefixed => d.databasePrefix
  | .manual => ""

/-- Binds an entry to a client. The entries of its whitelist and of its table rules have to be
expressions. -/
def make (resolution : Resolution) (id : Nat) (entry : Entry) (client : κ) :
    Except RegistrationError (Binding κ) :=
  let d := entry.definition
  match Gate.make? d.policy d.whitelist, d.tableRules.mapM TableRule.filter? with
  | some gate, some filters => .ok ⟨id, entry, client, prefixUnder resolution d, gate, filters⟩
  | _, _ => .error (.invalidDefinition d.name "regex parse error")

def definition (b : Binding κ) : Definition := b.entry.definition

def name (b : Binding κ) : String := b.definition.name

def isPrimary (b : Binding κ) : Bool := b.definition.isPrimary

/-- The last status of the metastore allows to ask it. -/
def isAvailable (statuses : StatusBoard) (b : Binding κ) : Bool :=
  statuses.status b.entry.id != .unavailable

/-- The name of a database at its metastore: without the prefix, in any case of its ASCII letters,
and without the alias. -/
def inbound (b : Binding κ) (database : String) : String :=
  b.definition.aliases.localName
    ((AsciiCase.dropStartOf? b.databasePrefix database).getD database)

/-- The name in the federation of a database, by its own name. -/
def outbound (b : Binding κ) (database : String) : String :=
  b.databasePrefix ++ database

/-- All names in the federation of a database, that of its own name first. -/
def outboundNames (b : Binding κ) (database : String) : List String :=
  (b.definition.aliases.surfaceNames database).map b.outbound

/-- The database of the metastore is visible. -/
def showsDatabase (b : Binding κ) (database : String) : Bool :=
  match b.definition.visibleDatabases with
  | none => true
  | some visible => visible.any fun name => Lowercase.sameLower name database

/-- The table in a database of the metastore is visible: the database has no filter, or one of its
filters lists the table. -/
def showsTable (b : Binding κ) (database table : String) : Bool :=
  let filters := b.tableFilters.filter fun f => f.database == Lowercase.lower database
  filters.isEmpty || filters.any fun f => f.tables.any fun e => e.isMatch table

end Binding

end MetastoreFederation.Metastore
