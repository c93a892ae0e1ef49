import MetastoreFederation.Text.Blank
import MetastoreFederation.Text.CaseFold
import MetastoreFederation.Text.Script
import MetastoreFederation.Text.Trait

/-!
Sets of characters, as regular expressions describe them: ranges and classes, their unions and
intersections, and the same sets without regard to case.
-/

set_option autoImplicit false
set_option relaxedAutoImplicit false

namespace MetastoreFederation.Regex

open Text

/-- A description of a set of characters. -/
inductive CharSet
  | empty
  | range (first last : Char)
  /-- Letters, marks, digits and connectors. -/
  | word
  | digit
  | blank
  | category (runs : List Category.Run)
  | union (a b : CharSet)
  | inter (a b : CharSet)
  | diff (a b : CharSet)
  | symmDiff (a b : CharSet)
  | complement (a : CharSet)
  /-- With every character all that differ from it in case. -/
  | anyCase (a : CharSet)
  /-- With every ASCII letter its other case. -/
  | anyAsciiCase (a : CharSet)

namespace CharSet

/-- Circled letters, which count as letters though they are symbols. -/
def isCircledLetter (c : Char) : Bool :=
  let n := c.toNat
  (0x24B6 ≤ n && n ≤ 0x24E9) || (0x1F130 ≤ n && n ≤ 0x1F149) || (0x1F150 ≤ n && n ≤ 0x1F169) ||
    (0x1F170 ≤ n && n ≤ 0x1F189)

/-- The categories of the characters of words. -/
def wordRuns : List Category.Run :=
  Category.letter ++ Category.mark ++ Category.digit ++ Category.letterNumber ++ Category.connector

/-- An ASCII letter or digit, or an underscore. -/
def isAsciiWord (c : Char) : Bool := c.isAlphanum || c == '_'

/-- The character may be part of a word. -/
def isWord (c : Char) : Bool :=
  if c.toNat < 128 then isAsciiWord c
  else c == '\u200c' || c == '\u200d' || isCircledLetter c || Category.holds wordRuns c

/-- The character is a decimal digit of some script. -/
def isDigit (c : Char) : Bool :=
  if c.toNat < 128 then c.isDigit else Category.holds Category.digit c

/-- The set holds the character. -/
def holds : CharSet → Char → Bool
  | empty, _ => false
  | range first last, c => first ≤ c && c ≤ last
  | word, c => isWord c
  | digit, c => isDigit c
  | blank, c => Blank.isBlank c
  | category runs, c => Category.holds runs c
  | union a b, c => a.holds c || b.holds c
  | inter a b, c => a.holds c && b.holds c
  | diff a b, c => a.holds c && !b.holds c
  | symmDiff a b, c => a.holds c != b.holds c
  | complement a, c => !a.holds c
  | anyCase a, c => (CaseFold.variants c).any a.holds
  | anyAsciiCase a, c => (CaseFold.asciiVariants c).any a.holds

def single (c : Char) : CharSet := range c c

/-- The union of ranges. -/
def ofRanges (ranges : List (Char × Char)) : CharSet :=
  ranges.foldl (fun s r => union s (range r.1 r.2)) empty

/-- The ASCII classes with their names. -/
def asciiClasses : List (String × CharSet) :=
  [("alnum", ofRanges [('0', '9'), ('A', 'Z'), ('a', 'z')]),
    ("alpha", ofRanges [('A', 'Z'), ('a', 'z')]), ("ascii", range '\x00' '\x7f'),
    ("blank", ofRanges [('\t', '\t'), (' ', ' ')]),
    ("cntrl", ofRanges [('\x00', '\x1f'), ('\x7f', '\x7f')]), ("digit", range '0' '9'),
    ("graph", range '!' '~'), ("lower", range 'a' 'z'), ("print", range ' ' '~'),
    ("punct", ofRanges [('!', '/'), (':', '@'), ('[', '\x60'), ('\x7b', '~')]),
    ("space", ofRanges [('\t', '\r'), (' ', ' ')]), ("upper", range 'A' 'Z'),
    ("word", ofRanges [('0', '9'), ('A', 'Z'), ('a', 'z'), ('_', '_')]),
    ("xdigit", ofRanges [('0', '9'), ('A', 'F'), ('a', 'f')])]

/-- The general categories with their names, and the sets that are named like them. -/
def categories : List (List String × CharSet) :=
  [(["any"], complement empty), (["ascii"], range '\x00' '\x7f'),
    (["l", "letter"], category Category.letter),
    (["lu", "uppercaseletter"], category Category.upperLetter),
    (["ll", "lowercaseletter"], category Category.lowerLetter),
    (["lt", "titlecaseletter"], category Category.titleLetter),
    (["lc", "casedletter"],
      category (Category.upperLetter ++ Category.lowerLetter ++ Category.titleLetter)),
    (["lm", "modifierletter"], category Category.modifierLetter),
    (["lo", "otherletter"], category Category.otherLetter),
    (["m", "mark", "combiningmark"], category Category.mark),
    (["mn", "nonspacingmark"], category Category.markBare),
    (["mc", "spacingmark"], category Category.markSpacing),
    (["me", "enclosingmark"], category Category.markEnclosing),
    (["n", "number"], category Category.number),
    (["nd", "decimalnumber", "digit"], category Category.digit),
    (["nl", "letternumber"], category Category.letterNumber),
    (["no", "othernumber"], category Category.otherNumber),
    (["p", "punctuation", "punct"], category Category.punctuation),
    (["pc", "connectorpunctuation"], category Category.connector),
    (["pd", "dashpunctuation"], category Category.dash),
    (["ps", "openpunctuation"], category Category.opening),
    (["pe", "closepunctuation"], category Category.closing),
    (["pi", "initialpunctuation"], category Category.openingQuote),
    (["pf", "finalpunctuation"], category Category.closingQuote),
    (["po", "otherpunctuation"], category Category.otherPunctuation),
    (["s", "symbol"], category Category.symbol),
    (["sm", "mathsymbol"], category Category.mathSymbol),
    (["sc", "currencysymbol"], category Category.currency),
    (["sk", "modifiersymbol"], category Category.modifierSymbol),
    (["so", "othersymbol"], category Category.otherSymbol),
    (["z", "separator"], category Category.separator),
    (["zs", "spaceseparator"], category Category.space),
    (["zl", "lineseparator"], category Category.lineSeparator),
    (["zp", "paragraphseparator"], category Category.paragraphSeparator),
    (["c", "other"], complement (category (Category.graphic ++ Category.separator))),
    (["cc", "control", "cntrl"], category Category.control),
    (["cf", "format"], category Category.format),
    (["co", "privateuse"], category Category.privateUse),
    (["cn", "unassigned"], complement (category Category.assigned)),
    (["assigned"], category Category.assigned)]

/-- The characters of the first list of runs without those of the second. -/
def without (runs others : List Category.Run) : CharSet :=
  diff (category runs) (category others)

/-- The binary properties that are made of categories, with their names. -/
def traits : List (List String × CharSet) :=
  [(["alphabetic", "alpha"], category Trait.alphabetic),
    (["lowercase", "lower"], category Trait.lowercase),
    (["uppercase", "upper"], category Trait.uppercase),
    (["cased"], category Trait.cased),
    (["idstart", "ids"], without Trait.identifierStart Trait.grammatical),
    (["idcontinue", "idc"], without Trait.identifierPart Trait.grammatical),
    (["xidstart", "xids"],
      without Trait.identifierStart (Trait.grammatical ++ Trait.unstableStart)),
    (["xidcontinue", "xidc"],
      without Trait.identifierPart (Trait.grammatical ++ Trait.unstablePart)),
    (["whitespace", "wspace", "space"], blank)]

private def named? (sets : List (List String × CharSet)) (key : String) : Option CharSet :=
  (sets.find? fun p => p.1.contains key).map Prod.snd

/-- The name of a property as it is looked up: case, blanks, dashes and an `is` in front do not
count. -/
def propertyKey (name : String) : String :=
  let bare (s : List Char) : String :=
    String.ofList <| (s.filter fun c => !" _-".contains c && c.toNat < 128).map Char.toLower
  let chars := name.toList
  if bare (chars.take 2) == "is" then bare (chars.drop 2) else bare chars

/-- The set of a name: a binary property, else a category, else a script. -/
def property? (name : String) : Option CharSet :=
  let key := propertyKey name
  (named? traits key).or <|
    ((Trait.named? key).map category).or <|
      (named? categories key).or ((Script.named? key).map category)

/-- The set of the characters for which a property has a value. -/
def propertyValue? (name value : String) : Option CharSet :=
  let key := propertyKey name
  if ["gc", "generalcategory"].contains key then named? categories (propertyKey value)
  else if ["sc", "script"].contains key then (Script.named? (propertyKey value)).map category
  else none

end CharSet

end MetastoreFederation.Regex
