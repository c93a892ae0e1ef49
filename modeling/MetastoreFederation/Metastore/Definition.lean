import MetastoreFederation.Duration
import MetastoreFederation.Metastore.AliasTable
import MetastoreFederation.Metastore.Policy
import MetastoreFederation.Text.Blank

/-!
Definitions of metastores: where one lives, how its databases are named in the federation and what
callers may do with it. `problems` says what is wrong with a definition on its own.
-/

set_option autoImplicit false
set_option relaxedAutoImplicit false

namespace MetastoreFederation.Metastore

/-- Which tables of one database are visible: those that some expression matches as a whole. -/
structure TableRule where
  /-- The name of the database at its metastore. -/
  database : String
  tables : List String
deriving DecidableEq, Repr

/-- The configured description of a metastore. -/
structure Definition where
  name : String
  role : Role := .federated
  /-- The addresses of the metastore, between commas. -/
  addresses : String
  /-- The routing prefix, where it is not derived from the name. -/
  explicitPrefix : Option String := none
  policy : Policy := .readOnly
  /-- Expressions for the databases that may be written under a policy with a whitelist. -/
  whitelist : List String := []
  /-- The visible databases; none given means all. -/
  visibleDatabases : Option (List String) := none
  tableRules : List TableRule := []
  aliases : AliasTable := .empty
  /-- Milliseconds that answers are allowed beyond the usual limit. -/
  latency : UInt64 := 0
deriving DecidableEq

namespace Definition

def isPrimary (d : Definition) : Bool := d.role.isPrimary

/-- The prefix under which the databases are surfaced: none for the primary, else the explicit one,
else the name with an underscore. -/
def databasePrefix (d : Definition) : String :=
  match d.role with
  | .primary => ""
  | .federated => d.explicitPrefix.getD (d.name ++ "_")

/-- The single addresses, without blanks at their ends. -/
def addressList (d : Definition) : List String :=
  let parts := d.addresses.toList.splitOn ','
  (parts.map fun part => String.ofList (Text.Blank.trimChars part)).filter fun address =>
    !address.isEmpty

/-- The time that answers are allowed beyond the usual limit. -/
def allowance (d : Definition) : Duration := .ofMillis d.latency.toNat

/-- The databases listed as visible. -/
def listedDatabases (d : Definition) : List String := d.visibleDatabases.getD []

/-- A problem's text, where there is the problem. -/
private def problem (present : Bool) (text : String) : List String :=
  if present then [text] else []

/-- What is wrong with the definition on its own. -/
def problems (d : Definition) : List String :=
  problem (Text.Blank.allBlank d.name) "metastore name cannot be empty" ++
  problem d.addressList.isEmpty ("metastore '" ++ d.name ++ "' has no remote URIs") ++
  problem (d.isPrimary && d.explicitPrefix.getD "" != "")
    ("primary metastore '" ++ d.name ++ "' cannot have database prefix '" ++
      d.explicitPrefix.getD "" ++ "'") ++
  problem (!d.isPrimary && !d.policy.allowedForFederated)
    ("federated metastore '" ++ d.name ++ "' cannot use access control '" ++ d.policy.name ++
      "'") ++
  problem (!d.whitelist.isEmpty && !d.policy.usesWhitelist)
    ("metastore '" ++ d.name ++ "' has a writable whitelist but access control '" ++
      d.policy.name ++ "' ignores it")

end Definition

end MetastoreFederation.Metastore
