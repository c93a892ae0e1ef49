import MetastoreFederation.Regex.Parser

/-!
Texts as expressions. With a backslash in front of each character that means something, a text is an
expression that stands for itself.
-/

set_option autoImplicit false
set_option relaxedAutoImplicit false

namespace MetastoreFederation.Regex

/-- The character as an expression. -/
def escapeChar (c : Char) : List Char := if isMeta c then ['\\', c] else [c]

/-- The name as an expression. -/
def escape (name : String) : String := String.ofList (name.toList.flatMap escapeChar)

end MetastoreFederation.Regex
