import MetastoreFederation.Text.Category.Table

/-!
General categories of characters. Each category is a list of runs of code points, read once from its
table; `holds` looks a character up.
-/

set_option autoImplicit false
set_option relaxedAutoImplicit false

namespace MetastoreFederation.Text.Category

/-- Every `step`-th code point from `first` to `last`. -/
structure Run where
  first : Nat
  last : Nat
  step : Nat

/-- The value of hexadecimal digits. -/
def hexValue (digits : List Char) : Nat :=
  digits.foldl (fun n c => 16 * n + (if c.isDigit then c.toNat - 48 else c.toNat - 55)) 0

/-- A run of a table: a code point, or the two ends, followed by `/2` where every second code point
counts. -/
def Run.ofChars (s : List Char) : Run :=
  let ends := s.takeWhile (· != '/')
  let first := ends.takeWhile (· != '-')
  let last := (ends.dropWhile (· != '-')).drop 1
  ⟨hexValue first, hexValue (if last.isEmpty then first else last), if '/' ∈ s then 2 else 1⟩

/-- The runs of a table. -/
def ofTable (table : String) : List Run :=
  ((table.toList.map fun c => if c = '\n' then ' ' else c).splitOn ' ').filterMap fun item =>
    if item.isEmpty then none else some (Run.ofChars item)

/-- Some run holds the character. -/
def holds (runs : List Run) (c : Char) : Bool :=
  runs.any fun r => r.first ≤ c.toNat && c.toNat ≤ r.last && (c.toNat - r.first) % r.step == 0

def upperLetter : List Run := ofTable Table.upperLetter

def lowerLetter : List Run := ofTable Table.lowerLetter

def titleLetter : List Run := ofTable Table.titleLetter

def modifierLetter : List Run := ofTable Table.modifierLetter

def otherLetter : List Run := ofTable Table.otherLetter

def markBare : List Run := ofTable Table.markBare

def markSpacing : List Run := ofTable Table.markSpacing

def markEnclosing : List Run := ofTable Table.markEnclosing

def digit : List Run := ofTable Table.digit

def letterNumber : List Run := ofTable Table.letterNumber

def otherNumber : List Run := ofTable Table.otherNumber

def connector : List Run := ofTable Table.connector

def dash : List Run := ofTable Table.dash

def opening : List Run := ofTable Table.opening

def closing : List Run := ofTable Table.closing

def openingQuote : List Run := ofTable Table.openingQuote

def closingQuote : List Run := ofTable Table.closingQuote

def otherPunctuation : List Run := ofTable Table.otherPunctuation

def mathSymbol : List Run := ofTable Table.mathSymbol

def currency : List Run := ofTable Table.currency

def modifierSymbol : List Run := ofTable Table.modifierSymbol

def otherSymbol : List Run := ofTable Table.otherSymbol

def space : List Run := ofTable Table.space

def lineSeparator : List Run := ofTable Table.lineSeparator

def paragraphSeparator : List Run := ofTable Table.paragraphSeparator

def control : List Run := ofTable Table.control

def format : List Run := ofTable Table.format

def privateUse : List Run := ofTable Table.privateUse

/-- Letters of every kind. -/
def letter : List Run :=
  upperLetter ++ lowerLetter ++ titleLetter ++ modifierLetter ++ otherLetter

/-- Marks of every kind. -/
def mark : List Run := markBare ++ markSpacing ++ markEnclosing

/-- Numbers of every kind. -/
def number : List Run := digit ++ letterNumber ++ otherNumber

/-- Punctuation of every kind. -/
def punctuation : List Run :=
  connector ++ dash ++ opening ++ closing ++ openingQuote ++ closingQuote ++ otherPunctuation

/-- Symbols of every kind. -/
def symbol : List Run := mathSymbol ++ currency ++ modifierSymbol ++ otherSymbol

/-- Separators of every kind. -/
def separator : List Run := space ++ lineSeparator ++ paragraphSeparator

/-- Characters with a shape of their own. -/
def graphic : List Run := letter ++ mark ++ number ++ punctuation ++ symbol

/-- Characters that have a category. -/
def assigned : List Run := graphic ++ separator ++ control ++ format ++ privateUse

end MetastoreFederation.Text.Category
