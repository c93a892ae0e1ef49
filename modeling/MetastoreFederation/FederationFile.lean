import MetastoreFederation.Metastore.Compatibility
import MetastoreFederation.Metastore.Record
import MetastoreFederation.Yaml.Node.Reading
import MetastoreFederation.Yaml.Printer

/-!
The file that defines a federation: one section for the primary metastore and one for the federated
ones. The section of a definition decides its role. `problems` says at once all that is wrong with a
federation.
-/

set_option autoImplicit false
set_option relaxedAutoImplicit false

namespace MetastoreFederation

open Document Metastore

/-- The definitions of a federation by their roles. -/
structure FederationFile where
  primary : Option Definition
  federated : List Definition
  primary_role : ∀ d ∈ primary, d.role = .primary
  federated_role : ∀ d ∈ federated, d.role = .federated
deriving DecidableEq

namespace FederationFile

/-- The definitions of the two sections, each with the role of its section. -/
def ofSections (primary : Option Definition) (federated : List Definition) : FederationFile where
  primary := primary.map fun d => { d with role := .primary }
  federated := federated.map fun d => { d with role := .federated }
  primary_role d h := by
    obtain ⟨e, _, rfl⟩ := Option.map_eq_some_iff.1 h
    rfl
  federated_role d h := by
    obtain ⟨e, _, rfl⟩ := List.mem_map.1 h
    rfl

def empty : FederationFile := ofSections none []

/-- Enters a definition under its role; there is only one primary. -/
def add (f : FederationFile) (d : Definition) : FederationFile :=
  match h : d.role with
  | .primary => { f with
      primary := some d
      primary_role := fun e he => by
        obtain rfl := Option.some.inj he
        exact h }
  | .federated => { f with
      federated := f.federated ++ [d]
      federated_role := fun e he => by
        rcases List.mem_append.1 he with he | he
        · exact f.federated_role e he
        · obtain rfl := List.mem_singleton.1 he
          exact h }

/-- The file of definitions, of which the last primary counts. -/
def ofDefinitions (definitions : List Definition) : FederationFile :=
  definitions.foldl add empty

/-- All definitions, the primary first. -/
def definitions (f : FederationFile) : List Definition :=
  f.primary.toList ++ f.federated

/-- The two sections as they are read. -/
structure Sections where
  primary : Option Definition
  federated : List Definition

variable {ν : Type} [Source ν]

/-- The record of a federation. -/
def record : RecordType ν Sections where
  title := "Federations"
  blank := ⟨none, []⟩
  fields := [
    ⟨"primary-meta-store", false,
      fun v s => do return { s with primary := ← readOption Definition.read v }⟩,
    ⟨"federated-meta-stores", false,
      fun v s => do return { s with federated := ← readList Definition.read v }⟩]

/-- Reads a federation. -/
def read (v : ν) : Except DataError FederationFile := do
  let s ← record.read v
  return ofSections s.primary s.federated

/-- The federation as a record. -/
def toDatum (f : FederationFile) : Datum :=
  .fields <| f.primary.toList.map (fun d => ("primary-meta-store", d.toDatum)) ++
    [("federated-meta-stores", .items (f.federated.map Definition.toDatum))]

/-- Reads the text of a federation file. -/
def parse (text : String) : Except ConfigError FederationFile :=
  (Yaml.readDocument read text).mapError ConfigError.unreadable

/-- The text of the federation file. -/
def render (f : FederationFile) : String := Yaml.Printer.render f.toDatum

/-- Names with their owners, the latest first. -/
abbrev Owners := List (String × String)

/-- What was claimed so far by the definitions before one. -/
structure Claims where
  names : List String
  prefixes : Owners
  databases : Owners

/-- Claims a listed database, which may have an owner. -/
def claimDatabase (d : Definition) (databases : Owners) (database : String) :
    Owners × List String :=
  let key := Text.Lowercase.lower database
  ((key, d.name) :: databases,
    (databases.lookup key).toList.map fun owner =>
      "database '" ++ database ++ "' of metastore '" ++ d.name ++ "' is already mapped by '" ++
        owner ++ "'")

/-- Claims listed databases one after another. -/
def claimDatabases (d : Definition) : Owners → List String → Owners × List String
  | databases, [] => (databases, [])
  | databases, database :: rest =>
    let (databases, problems) := claimDatabase d databases database
    let (databases, further) := claimDatabases d databases rest
    (databases, problems ++ further)

/-- Claims what a definition asks for, and says what was claimed before. -/
def claim (resolution : Resolution) (c : Claims) (d : Definition) : Claims × List String :=
  let nameProblems :=
    if d.name ∈ c.names then ["duplicate metastore name '" ++ d.name ++ "'"] else []
  let c := { c with names := d.name :: c.names }
  match resolution with
  | .prefixed =>
    let owner? := c.prefixes.lookup d.databasePrefix
    ({ c with prefixes := (d.databasePrefix, d.name) :: c.prefixes },
      nameProblems ++ owner?.toList.map fun owner =>
        "prefix '" ++ d.databasePrefix ++ "' of metastore '" ++ d.name ++
          "' is already used by '" ++ owner ++ "'")
  | .manual =>
    if d.isPrimary then (c, nameProblems)
    else
      let (databases, problems) := claimDatabases d c.databases d.listedDatabases
      ({ c with databases := databases }, nameProblems ++ problems)

/-- What is claimed twice among definitions. -/
def clashes (resolution : Resolution) : Claims → List Definition → List String
  | _, [] => []
  | c, d :: rest =>
    let (c, problems) := claim resolution c d
    problems ++ clashes resolution c rest

/-- All that is wrong with the federation: first with each definition, then between them. -/
def problems (resolution : Resolution) (f : FederationFile) : List String :=
  f.definitions.flatMap Definition.problems ++ clashes resolution ⟨[], [], []⟩ f.definitions

/-- The federation can be used under the way of resolution. -/
def validate (resolution : Resolution) (f : FederationFile) : Except ConfigError Unit :=
  let found := f.problems resolution
  if found.isEmpty then .ok () else .error (.invalid found)

end FederationFile

end MetastoreFederation
