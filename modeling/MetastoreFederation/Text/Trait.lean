import MetastoreFederation.Text.Category
import MetastoreFederation.Text.Trait.Table

/-!
Binary properties of characters: what a character has or has not, beside its category. Some have a
table of their own; the letters in a wider sense are categories with a few characters more.
-/

set_option autoImplicit false
set_option relaxedAutoImplicit false

namespace MetastoreFederation.Text.Trait

/-- The characters of the property with this name that has a table, in small letters without
blanks. -/
def named? (name : String) : Option (List Category.Run) :=
  (Table.rows.find? fun row => row.1.contains name).map fun row => Category.ofTable row.2

/-- The characters of a property that has a table, none for any other name. -/
def named (name : String) : List Category.Run := (named? name).getD []

/-- Letters, and the marks and symbols that are used as letters. -/
def alphabetic : List Category.Run :=
  Category.letter ++ Category.letterNumber ++ named "otheralphabetic"

/-- Letters and symbols in lower case. -/
def lowercase : List Category.Run := Category.lowerLetter ++ named "otherlowercase"

/-- Letters and symbols in upper case. -/
def uppercase : List Category.Run := Category.upperLetter ++ named "otheruppercase"

/-- Letters and symbols that have a case. -/
def cased : List Category.Run := lowercase ++ uppercase ++ Category.titleLetter

/-- Characters that may start an identifier, except for those that are part of a grammar. -/
def identifierStart : List Category.Run :=
  Category.letter ++ Category.letterNumber ++ Category.ofTable "1885-1886 2118 212E 309B-309C"

/-- Characters that may stand in an identifier, except for those that are part of a grammar. -/
def identifierPart : List Category.Run :=
  identifierStart ++ Category.markBare ++ Category.markSpacing ++ Category.digit ++
    Category.connector ++ Category.ofTable "B7 387 1369-1371 19DA"

/-- Characters whose compatibility form cannot start an identifier. -/
def unstableStart : List Category.Run :=
  Category.ofTable "37A E33 EB3 309B-309C FC5E-FC63 FDFA-FDFB FE70-FE7E/2 FF9E-FF9F"

/-- Characters whose compatibility form cannot stand in an identifier. -/
def unstablePart : List Category.Run :=
  Category.ofTable "37A 309B-309C FC5E-FC63 FDFA-FDFB FE70-FE7E/2"

/-- Characters that are part of a grammar. -/
def grammatical : List Category.Run := named "patternsyntax" ++ named "patternwhitespace"

end MetastoreFederation.Text.Trait
