/-!
A place in a YAML text, with its line and column, and the characters that structure such texts. A
line ends at a line feed, a carriage return or both, or at one of three further line breaks.
-/

set_option autoImplicit false
set_option relaxedAutoImplicit false

namespace MetastoreFederation.Yaml

/-- The character ends a line. -/
def isBreak (c : Char) : Bool :=
  c == '\n' || c == '\r' || c == '\u0085' || c == '\u2028' || c == '\u2029'

/-- The character is a space or a tab. -/
def isGap (c : Char) : Bool := c == ' ' || c == '\t'

/-- The character may stand in names of anchors and directives. -/
def isNameChar (c : Char) : Bool := c.isAlphanum || c == '_' || c == '-'

/-- The character may stand in a text at all. -/
def isAllowed (c : Char) : Bool :=
  let n := c.toNat
  n == 0x9 || n == 0xA || n == 0xD || (0x20 ≤ n && n ≤ 0x7E) || n == 0x85 ||
    (0xA0 ≤ n && n ≤ 0xFFFD && n != 0xFEFF) || 0x10000 ≤ n

/-- A place in a text: what follows, how many characters and lines precede, and how many characters
of the line. -/
structure Cursor where
  rest : List Char
  index : Nat
  line : Nat
  column : Nat

namespace Cursor

def start (text : List Char) : Cursor := ⟨text, 0, 0, 0⟩

def peek? (c : Cursor) : Option Char := c.rest.head?

/-- Nothing, or a character that ends a line, stands at the place. -/
def atLineEnd (c : Cursor) : Bool := c.rest.head?.all isBreak

/-- Nothing, a blank or a line break stands `n` characters on. -/
def blankAt (c : Cursor) (n : Nat) : Bool :=
  (c.rest[n]?).all fun d => isGap d || isBreak d

/-- Past one character of the line. -/
def next (c : Cursor) : Cursor := ⟨c.rest.tail, c.index + 1, c.line, c.column + 1⟩

/-- Past `n` characters of the line. -/
def skip (c : Cursor) (n : Nat) : Cursor := ⟨c.rest.drop n, c.index + n, c.line, c.column + n⟩

/-- Past the characters of the line for which `p` holds, which are given as well. -/
def span (p : Char → Bool) (c : Cursor) : List Char × Cursor :=
  let run := c.rest.takeWhile p
  (run, c.skip run.length)

/-- Past a line break, if one stands at the place. The break is given as the text keeps it: a line
feed, except for the two breaks that have no other form. -/
def takeBreak (c : Cursor) : List Char × Cursor :=
  match c.rest with
  | '\r' :: '\n' :: rest => (['\n'], ⟨rest, c.index + 2, c.line + 1, 0⟩)
  | d :: rest =>
    if isBreak d then
      ([if d = '\u2028' ∨ d = '\u2029' then d else '\n'], ⟨rest, c.index + 1, c.line + 1, 0⟩)
    else ([], c)
  | [] => ([], c)

/-- Past spaces and tabs. -/
def skipGaps (c : Cursor) : Cursor := (c.span isGap).2

/-- Past everything up to the end of the line. -/
def skipToLineEnd (c : Cursor) : Cursor := (c.span fun d => !isBreak d).2

/-- A mark between documents, three of the same character, stands at the start of a line. -/
def atMark (mark : Char) (c : Cursor) : Bool :=
  c.column == 0 && c.rest.take 3 == [mark, mark, mark] && c.blankAt 3

/-- One of the two marks between documents stands at the place. -/
def atDocumentMark (c : Cursor) : Bool := c.atMark '-' || c.atMark '.'

end Cursor

end MetastoreFederation.Yaml
