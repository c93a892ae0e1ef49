/-!
What a metastore is to the federation and what callers may do with it, with the names that
configurations use.
-/

set_option autoImplicit false
set_option relaxedAutoImplicit false

namespace MetastoreFederation.Metastore

/-- The primary serves every name that no other metastore owns. -/
inductive Role
  | primary
  | federated
deriving DecidableEq, Repr, Inhabited

namespace Role

/-- The roles with their names. -/
def names : List (String × Role) :=
  [("primary", primary), ("federated", federated)]

def name : Role → String
  | primary => "primary"
  | federated => "federated"

def isPrimary : Role → Bool
  | primary => true
  | federated => false

end Role

/-- Which databases may be written and whether new ones may be created. -/
inductive Policy
  | readOnly
  | writeAndCreate
  | writeListed
  | writeListedAndCreate
deriving DecidableEq, Repr, Inhabited

namespace Policy

def name : Policy → String
  | readOnly => "read-only"
  | writeAndCreate => "read-and-write-and-create"
  | writeListed => "read-and-write-on-database-whitelist"
  | writeListedAndCreate => "read-and-write-and-create-on-database-whitelist"

/-- The policies with their names. -/
def names : List (String × Policy) :=
  [readOnly, writeAndCreate, writeListed, writeListedAndCreate].map fun p => (p.name, p)

/-- The policy looks at a list of writable databases. -/
def usesWhitelist : Policy → Bool
  | readOnly | writeAndCreate => false
  | writeListed | writeListedAndCreate => true

/-- Databases may be created. -/
def mayCreate : Policy → Bool
  | readOnly | writeListed => false
  | writeAndCreate | writeListedAndCreate => true

/-- A metastore that is not the primary may have the policy: it then creates no databases. -/
def allowedForFederated (p : Policy) : Bool :=
  !p.mayCreate

end Policy

end MetastoreFederation.Metastore
