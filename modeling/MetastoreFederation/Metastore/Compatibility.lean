import MetastoreFederation.Error
import MetastoreFederation.Metastore.Definition
import MetastoreFederation.Resolution
import MetastoreFederation.Text.Lowercase

/-!
Which definitions may stand side by side. A candidate must be sound on its own, and against each
definition in turn it needs a name of its own, at most one of the two may be the primary, and no
prefix, or no listed database, may belong to both.
-/

set_option autoImplicit false
set_option relaxedAutoImplicit false

namespace MetastoreFederation

namespace Metastore

/-- The first database listed by `other` that the candidate lists too, in any case. -/
def sharedDatabase? (other candidate : Definition) : Option String :=
  let claimed := candidate.listedDatabases.map Text.Lowercase.lower
  other.listedDatabases.find? fun database => claimed.contains (Text.Lowercase.lower database)

/-- Why the candidate cannot stand beside one other definition. -/
def conflict? (resolution : Resolution) (candidate other : Definition) :
    Option RegistrationError :=
  if other.name = candidate.name then some (.duplicateName candidate.name)
  else if candidate.isPrimary && other.isPrimary then some (.primaryAlreadyRegistered other.name)
  else
    match resolution with
    | .prefixed =>
      if other.databasePrefix = candidate.databasePrefix then
        some (.duplicatePrefix candidate.databasePrefix other.name)
      else none
    | .manual =>
      if candidate.isPrimary || other.isPrimary then none
      else (sharedDatabase? other candidate).map fun database =>
        .duplicateDatabase database other.name

/-- Whether the candidate can join the others, none of which it replaces. -/
def checkCompatible (resolution : Resolution) (others : List Definition) (candidate : Definition) :
    Except RegistrationError Unit :=
  if !candidate.problems.isEmpty then
    .error (.invalidDefinition candidate.name ("; ".intercalate candidate.problems))
  else
    match others.findSome? (conflict? resolution candidate) with
    | some cause => .error cause
    | none => .ok ()

end Metastore

end MetastoreFederation
