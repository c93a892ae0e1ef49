import MetastoreFederation.Metastore.AliasTable
import MetastoreFederation.Text.Lowercase

/-!
Names of databases under a table of aliases. A database is surfaced under its own name and under its
alias, and an alias leads back to the database. Names are compared in lower case, and of several
entries that compare equal the last one counts.
-/

set_option autoImplicit false
set_option relaxedAutoImplicit false

namespace MetastoreFederation.Metastore.AliasTable

open Text

/-- The alias of a database. -/
def aliasOf? (t : AliasTable) (database : String) : Option String :=
  (t.entries.reverse.find? fun e => Lowercase.sameLower e.1 database).map Prod.snd

/-- The database of an alias. -/
def databaseOf? (t : AliasTable) (name : String) : Option String :=
  (t.entries.reverse.find? fun e => Lowercase.sameLower e.2 name).map Prod.fst

/-- The names under which a database is surfaced, its own first. -/
def surfaceNames (t : AliasTable) (database : String) : List String :=
  database :: (t.aliasOf? database).toList

/-- The database that is meant by a surfaced name. -/
def localName (t : AliasTable) (name : String) : String :=
  (t.databaseOf? name).getD name

end MetastoreFederation.Metastore.AliasTable
