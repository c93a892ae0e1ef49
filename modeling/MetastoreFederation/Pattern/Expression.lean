import MetastoreFederation.Pattern.Glob
import MetastoreFederation.Regex.Escape

/-!
Name patterns as regular expressions. Each wildcard becomes one that stands for the same, what lies
between two wildcards is escaped as a whole, and the expression has to match the whole name.
-/

set_option autoImplicit false
set_option relaxedAutoImplicit false

namespace MetastoreFederation.Pattern.Glob

/-- A wildcard as an expression. -/
def wildcardText (c : Char) : List Char := if c = '*' then ['.', '*'] else ['.']

/-- The rest of a pattern as an expression, behind literal characters that are not written yet. -/
def expressionFrom (literal : List Char) : List Char → List Char
  | [] => literal.flatMap Regex.escapeChar
  | c :: p =>
    if isWildcard c then
      literal.flatMap Regex.escapeChar ++ wildcardText c ++ expressionFrom [] p
    else expressionFrom (literal ++ [c]) p

/-- The expression of a pattern, in which a dot takes line feeds, too. -/
def expression (pattern : String) : String :=
  "^(?s:" ++ String.ofList (expressionFrom [] pattern.toList) ++ ")$"

/-- Whether the pattern covers the whole name. An expression that cannot be read matches nothing. -/
def matchesName (pattern name : String) : Bool :=
  (Regex.parse? (expression pattern)).any fun e => e.isMatch name

end MetastoreFederation.Pattern.Glob
