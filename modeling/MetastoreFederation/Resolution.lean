/-!
The two ways in which a database name finds its metastore.
-/

set_option autoImplicit false
set_option relaxedAutoImplicit false

namespace MetastoreFederation

/-- By its prefix, or by the lists of databases. -/
inductive Resolution
  | prefixed
  | manual
deriving DecidableEq, Repr, Inhabited

namespace Resolution

/-- The ways of resolution with their names. -/
def names : List (String × Resolution) :=
  [("prefixed", prefixed), ("manual", manual)]

def name : Resolution → String
  | prefixed => "prefixed"
  | manual => "manual"

end Resolution

end MetastoreFederation
