import MetastoreFederation.Pattern.Qualifier
import MetastoreFederation.Pattern.Split

/-!
Decomposition of a database pattern. Each routing prefix gets the sub-pattern that its own metastore
can evaluate, and a prefix that no clause can reach gets none.
-/

set_option autoImplicit false
set_option relaxedAutoImplicit false

namespace MetastoreFederation.Pattern.Decompose

open Text

/-- The pattern of every name. -/
def matchAll : String := "*"

/-- A pattern that goes to every metastore as it stands. -/
def isPassthrough (pattern : String) : Bool :=
  pattern == matchAll || AsciiCase.same pattern Qualifier.defaultCatalog

/-- The alternatives of a pattern. -/
def clauses (pattern : String) : List (List Char) :=
  pattern.toList.splitOn '|'

/-- Whether some alternative of the pattern covers the name. -/
def matchesSome (pattern name : String) : Bool :=
  (clauses pattern).any fun clause => Glob.covers clause name.toList

/-- Alternatives joined into one pattern. -/
def ofClauses (parts : List (List Char)) : String :=
  String.ofList (['|'].intercalate parts)

/-- What the clauses ask of the names behind `start`: a share of each clause for each time that
`start` is listed. -/
def shares (prefixes : List String) (pattern start : String) : List (List Char) :=
  (clauses pattern).flatMap fun clause =>
    (prefixes.filter (· == start)).filterMap fun p =>
      (Split.cut? p.toList clause).map Split.Cut.remainder

/-- The sub-pattern of one listed prefix, if some clause can reach it. -/
def share? (prefixes : List String) (pattern start : String) : Option String :=
  match shares prefixes (Qualifier.strip pattern) start with
  | [] => none
  | parts => some (ofClauses parts)

/-- Each prefix with its sub-pattern. -/
def decompose (prefixes : List String) (pattern : String) : List (String × String) :=
  prefixes.eraseDups.filterMap fun start =>
    if isPassthrough pattern then some (start, pattern)
    else (share? prefixes pattern start).map fun part => (start, part)

/-- The cut of a clause, for strings. -/
def split? (start clause : String) : Option (String × String) :=
  (Split.cut? start.toList clause.toList).map fun c =>
    (String.ofList c.consumed, String.ofList c.remainder)

end MetastoreFederation.Pattern.Decompose
