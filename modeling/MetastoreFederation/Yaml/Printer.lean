import MetastoreFederation.Document.Datum
import MetastoreFederation.Yaml.Plain
import MetastoreFederation.Yaml.Token.Lexer

/-!
Data as YAML texts in block form. A text is written plain wherever a plain scalar reads back as that
text; one with line feeds is written line by line; any other is put in quotes.
-/

set_option autoImplicit false
set_option relaxedAutoImplicit false

namespace MetastoreFederation.Yaml.Printer

open Document

/-- The ways to write a scalar. -/
inductive Form
  | plain
  | single
  | double
  | literal
deriving DecidableEq, Repr

/-- The character can be written as it is. -/
def isPrintable (c : Char) : Bool :=
  let n := c.toNat
  n == 0xA || (0x20 ≤ n && n ≤ 0x7E) || (0xA0 ≤ n && n ≤ 0xFFFD && n != 0xFEFF) ||
    0x10000 ≤ n

/-- The character is a blank, a line break, or the end of the text. -/
def isGapOrEnd (c? : Option Char) : Bool := c?.all fun c => isGap c || isBreak c

/-- The character at the start of a scalar gives it another meaning. -/
def opensOther (c : Char) (next : Option Char) : Bool :=
  "#,[]\x7b\x7d&*!|>'\"%@\x60".toList.contains c || ("?:-".toList.contains c && isGapOrEnd next)

/-- Somewhere behind the first character a mapping value or a comment would begin. -/
def breaksPlain : List Char → Bool
  | c :: d :: rest =>
    (d == ':' && isGapOrEnd rest.head?) || (d == '#' && isGapOrEnd (some c)) ||
      breaksPlain (d :: rest)
  | _ => false

/-- Some member of the list is followed by one such that both satisfy the condition. -/
def hasPair (p : Char → Char → Bool) : List Char → Bool
  | c :: d :: rest => p c d || hasPair p (d :: rest)
  | _ => false

/-- A space stands before a line break. -/
def spaceBeforeBreak (s : List Char) : Bool := hasPair (fun c d => c == ' ' && isBreak d) s

/-- A space stands behind a line break. -/
def spaceAfterBreak (s : List Char) : Bool := hasPair (fun c d => isBreak c && d == ' ') s

/-- The scalar can be told from other scalars and from the marks of collections without quotes. -/
def allowsPlain (s : List Char) : Bool :=
  let ends := [s.head?, s.getLast?].filterMap id
  s.all isPrintable && !s.any isBreak && !ends.contains ' ' &&
    !(s.take 3 == ['-', '-', '-'] || s.take 3 == ['.', '.', '.']) &&
    !(s.head?.any fun c => opensOther c s[1]?) && !breaksPlain s

/-- The scalar keeps its blanks and line breaks in single quotes. -/
def allowsSingle (s : List Char) : Bool :=
  s.all isPrintable && !spaceBeforeBreak s && !spaceAfterBreak s

/-- The scalar can be written line by line. -/
def allowsLiteral (s : List Char) : Bool :=
  !s.isEmpty && s.all isPrintable && !spaceBeforeBreak s && s.getLast? != some ' '

/-- A plain scalar of this text would be read as something else. -/
def hasOtherMeaning (s : String) : Bool :=
  Plain.meaning s != .text || Plain.isPaddedNumber s.toList

/-- How the text is written. -/
def formOf (s : String) : Form :=
  let chars := s.toList
  if chars.contains '\n' then (if allowsLiteral chars then .literal else .double)
  else if !hasOtherMeaning s && allowsPlain chars then .plain
  else if allowsSingle chars then .single
  else .double

def spaces (n : Nat) : List Char := List.replicate n ' '

/-- Upper-case hexadecimal digits, at least `width` of them. -/
def hexDigits (width n : Nat) : List Char :=
  let digits := (Nat.toDigits 16 n).map Char.toUpper
  List.replicate (width - digits.length) '0' ++ digits

/-- The letter behind the backslash of a character that has one. -/
def escapeLetter? : Char → Option Char
  | '\x00' => some '0'
  | '\x07' => some 'a'
  | '\x08' => some 'b'
  | '\t' => some 't'
  | '\n' => some 'n'
  | '\x0b' => some 'v'
  | '\x0c' => some 'f'
  | '\r' => some 'r'
  | '\x1b' => some 'e'
  | '"' => some '"'
  | '\\' => some '\\'
  | '\u0085' => some 'N'
  | '\u2028' => some 'L'
  | '\u2029' => some 'P'
  | _ => none

/-- One character between double quotes. -/
def doubleQuotedChar (c : Char) : List Char :=
  if isPrintable c && !isBreak c && c != '"' && c != '\\' then [c]
  else
    match escapeLetter? c with
    | some letter => ['\\', letter]
    | none =>
      let n := c.toNat
      if n ≤ 0xFF then '\\' :: 'x' :: hexDigits 2 n
      else if n ≤ 0xFFFF then '\\' :: 'u' :: hexDigits 4 n
      else '\\' :: 'U' :: hexDigits 8 n

/-- The lines of a text, each behind its indentation unless it is empty. `atStart` says that a line
begins here, and `write` writes a character that ends no line. -/
def indented (indent : Nat) (write : Char → List Char) : Bool → List Char → List Char
  | _, [] => []
  | atStart, c :: rest =>
    if isBreak c then c :: indented indent write true rest
    else (if atStart then spaces indent else []) ++ write c ++ indented indent write false rest

/-- What is told of a block scalar beforehand: the width of its indentation, if its first line does
not show it, and what its last line breaks mean. -/
def literalHints (s : List Char) : List Char :=
  (if s.head?.any fun c => c == ' ' || isBreak c then ['2'] else []) ++
    (match s.reverse with
    | c :: rest =>
      if !isBreak c then ['-'] else if rest.head?.all isBreak then ['+'] else []
    | [] => ['-'])

/-- The text of a scalar whose further lines have the given indentation. -/
def scalar (indent : Nat) (s : String) : List Char :=
  let chars := s.toList
  match formOf s with
  | .plain => chars
  | .single =>
    let body := indented indent (fun c => if c = '\'' then ['\'', '\''] else [c]) false chars
    '\'' :: body ++ (if chars.getLast?.any isBreak then spaces indent else []) ++ ['\'']
  | .double => '"' :: chars.flatMap doubleQuotedChar ++ ['"']
  | .literal => '|' :: literalHints chars ++ '\n' :: indented indent (fun c => [c]) true chars

/-- The text with its line ended. -/
def closed (text : List Char) : List Char :=
  if text.getLast?.any isBreak then text else text ++ ['\n']

/-- The name can stand before a colon in one line. -/
def isSimpleKey (s : String) : Bool :=
  !s.toList.any isBreak && s.utf8ByteSize ≤ 128

/-- The number `mantissa / 10 ^ places`. -/
def decimalText (mantissa : Int) (places : Nat) : String :=
  s!"{mantissa}e-{places}"

/-- What stands before the text of a datum: a blank behind a key, nothing behind another mark. -/
def lead (afterKey : Bool) : List Char := if afterKey then [' '] else []

/-- What stands before a collection with the given indentation: behind a key it starts a line. -/
def newLine (afterKey : Bool) (indent : Nat) : List Char :=
  if afterKey then '\n' :: spaces indent else []

mutual

/-- The text of a datum behind the colon of its key, or behind another mark. Further lines of it
have the given indentation, except that a sequence behind a key keeps the indentation of the key. -/
def body (indent : Nat) (afterKey : Bool) : Datum → List Char
  | .null => lead afterKey ++ "null\n".toList
  | .flag true => lead afterKey ++ "true\n".toList
  | .flag false => lead afterKey ++ "false\n".toList
  | .integer n => lead afterKey ++ (toString n).toList ++ ['\n']
  | .decimal m places => lead afterKey ++ (decimalText m places).toList ++ ['\n']
  | .text s => lead afterKey ++ closed (scalar indent s)
  | .items xs =>
    let indent := if afterKey then indent - 2 else indent
    if xs.isEmpty then lead afterKey ++ "[]\n".toList
    else newLine afterKey indent ++ members indent true xs
  | .fields xs =>
    if xs.isEmpty then lead afterKey ++ "\x7b\x7d\n".toList
    else newLine afterKey indent ++ entries indent true xs

/-- The members of a sequence, of which the first stands on the line that was begun. -/
def members (indent : Nat) (first : Bool) : List Datum → List Char
  | [] => []
  | x :: rest =>
    (if first then [] else spaces indent) ++ '-' :: ' ' :: body (indent + 2) false x ++
      members indent false rest

/-- The entries of a mapping, of which the first stands on the line that was begun. A name that is
no simple key is marked as a key. -/
def entries (indent : Nat) (first : Bool) : List (String × Datum) → List Char
  | [] => []
  | (key, x) :: rest =>
    let simple := isSimpleKey key
    let head :=
      if simple then scalar indent key ++ [':']
      else '?' :: ' ' :: closed (scalar (indent + 2) key) ++ spaces indent ++ [':', ' ']
    (if first then [] else spaces indent) ++ head ++ body (indent + 2) simple x ++
      entries indent false rest

end

/-- The datum as a document. -/
def render (d : Datum) : String := String.ofList (body 0 false d)

end MetastoreFederation.Yaml.Printer
