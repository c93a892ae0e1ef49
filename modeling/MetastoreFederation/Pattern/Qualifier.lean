import MetastoreFederation.Text.AsciiCase
import MetastoreFederation.Text.Blank

/-!
Catalog qualifiers. A name may be written inside a catalog, as in `@hive#sales`; `strip` takes the
qualifier away and puts the sentinel of the default catalog where nothing is left.
-/

set_option autoImplicit false
set_option relaxedAutoImplicit false

namespace MetastoreFederation.Pattern.Qualifier

open Text

/-- The qualifier of the default catalog, which alone is its sentinel. -/
def defaultCatalog : String := "@hive#"

/-- Removes each occurrence of a `needle` of `width` + 1 characters, in either case of its ASCII
letters, from left to right. The count says how many characters of an occurrence are still due. -/
def eraseFrom (needle : List Char) (width : Nat) : Nat → List Char → List Char
  | _, [] => []
  | due + 1, _ :: s => eraseFrom needle width due s
  | 0, c :: s =>
    if (AsciiCase.dropStart? needle (c :: s)).isSome then eraseFrom needle width width s
    else c :: eraseFrom needle width 0 s

/-- The text without the qualifier of the default catalog, wherever and in whatever case it
stands. -/
def eraseDefault (s : List Char) : List Char :=
  eraseFrom defaultCatalog.toList (defaultCatalog.length - 1) 0 s

/-- A text that starts with a catalog marker loses all of them. -/
def eraseMarkers (s : List Char) : List Char :=
  if s.head? = some '@' then s.filter (· ≠ '@') else s

/-- A text that ends with a catalog separator loses all of them. -/
def eraseSeparators (s : List Char) : List Char :=
  if s.getLast? = some '#' then s.filter (· ≠ '#') else s

/-- The name or pattern without catalog qualifiers, or the sentinel if only blanks remain. -/
def stripChars (s : List Char) : List Char :=
  let bare := eraseSeparators (eraseMarkers (eraseDefault s))
  if bare.all Blank.isBlank then defaultCatalog.toList else bare

/-- The name or pattern without catalog qualifiers, for strings. -/
def strip (value : String) : String :=
  String.ofList (stripChars value.toList)

end MetastoreFederation.Pattern.Qualifier
