import MetastoreFederation.Metastore.Policy
import MetastoreFederation.Regex.Parser
import MetastoreFederation.Text.CaseFold

/-!
Write gates. The gate of a metastore knows its policy and the expressions of its whitelist; what
else may be written are the databases that were created through it. A created database is permitted
under its own name in any case, whatever characters the name has.
-/

set_option autoImplicit false
set_option relaxedAutoImplicit false

namespace MetastoreFederation.Metastore

open Text

/-- The names are equal but for the case of single characters. -/
def sameFolded (name other : String) : Bool :=
  name.toList.map CaseFold.fold == other.toList.map CaseFold.fold

/-- What a metastore permits to write. -/
structure Gate where
  policy : Policy
  whitelist : List Regex.Expr

namespace Gate

/-- The gate of a policy and the entries of a whitelist, if every entry is an expression. -/
def make? (policy : Policy) (entries : List String) : Option Gate :=
  (entries.mapM Regex.parseEntry?).map fun whitelist => ⟨policy, whitelist⟩

/-- Databases may be created. -/
def mayCreate (g : Gate) : Bool := g.policy.mayCreate

/-- The database is on the whitelist or among the databases created so far. -/
def isListed (g : Gate) (created : List String) (database : String) : Bool :=
  g.whitelist.any (fun entry => entry.isMatch database) ||
    created.any fun name => sameFolded name database

/-- The database may be written, after some were created. -/
def mayWrite (g : Gate) (created : List String) (database : String) : Bool :=
  match g.policy with
  | .readOnly => false
  | .writeAndCreate => true
  | .writeListed | .writeListedAndCreate => g.isListed created database

/-- What is to be remembered of a created database: its name, where the policy lists what may be
written and the gate does not permit it yet. -/
def newlyCreated (g : Gate) (created : List String) (database : String) : List String :=
  if g.policy = .writeListedAndCreate ∧ !g.isListed created database then [database] else []

private theorem isListed_cons_self (g : Gate) (created : List String) (database : String) :
    g.isListed (database :: created) database = true := by
  simp [isListed, sameFolded]

theorem mayWrite_newlyCreated {g : Gate} (h : g.policy = .writeListedAndCreate)
    (created : List String) (database : String) :
    g.mayWrite (g.newlyCreated created database ++ created) database = true := by
  cases hl : g.isListed created database
  · simp [mayWrite, newlyCreated, h, hl, isListed_cons_self]
  · simp [mayWrite, newlyCreated, h, hl]

end Gate

end MetastoreFederation.Metastore
