import MetastoreFederation.Text.Category

/-!
Texts in double quotes, for messages. Quotes, backslashes and the usual control characters are
written after a backslash; every other character that cannot be shown on its own is written as its
code point.
-/

set_option autoImplicit false
set_option relaxedAutoImplicit false

namespace MetastoreFederation.Text.Quoted

/-- The character stands alone in a quoted text. -/
def isShown (c : Char) : Bool :=
  if c.toNat < 128 then 32 ≤ c.toNat && c.toNat < 127
  else Category.holds Category.graphic c &&
    !Category.holds (Category.markBare ++ Category.markEnclosing) c

/-- The code point of a character in braces. -/
def codePoint (c : Char) : List Char :=
  "\\u\x7b".toList ++ Nat.toDigits 16 c.toNat ++ ['\x7d']

/-- One character of a quoted text. -/
def escape (c : Char) : List Char :=
  match c with
  | '"' => ['\\', '"']
  | '\\' => ['\\', '\\']
  | '\n' => ['\\', 'n']
  | '\r' => ['\\', 'r']
  | '\t' => ['\\', 't']
  | '\x00' => ['\\', '0']
  | _ => if isShown c then [c] else codePoint c

/-- The text in quotes. -/
def quote (s : String) : String :=
  String.ofList ('"' :: s.toList.flatMap escape ++ ['"'])

end MetastoreFederation.Text.Quoted
