import MetastoreFederation.Document.Source
import MetastoreFederation.Number.DoublePrecision

/-!
Data without a schema. A datum knows of each value whether it is a text, a number or a truth value,
and takes none for another. Records may also be given as sequences, in the order of their fields.
-/

set_option autoImplicit false
set_option relaxedAutoImplicit false

namespace MetastoreFederation.Document

/-- A tree of self-describing values. -/
inductive Datum
  | null
  | flag (value : Bool)
  | integer (value : Int)
  /-- The number `mantissa / 10 ^ places`. -/
  | decimal (mantissa : Int) (places : Nat)
  | text (value : String)
  | items (values : List Datum)
  /-- Values under names, in the order of the names. -/
  | fields (entries : List (String × Datum))
deriving Inhabited

namespace Datum

/-- The least natural number that takes more than 64 bits. -/
def wordBound : Int := 18446744073709551616

/-- The decimal text of a number after rounding to double precision. -/
def realText (mantissa : Int) (places : Nat) : String :=
  let size := (Number.DoublePrecision.ofDecimal? mantissa.natAbs (-(places : Int))).map
    fun b => b.shortest.render
  (if mantissa < 0 then "-" else "") ++ size.getD "inf"

/-- How messages describe the datum. -/
def found : Datum → Found
  | null => .null
  | flag b => .boolean b
  | integer n =>
    if n < wordBound ∧ -wordBound ≤ 2 * n then .integer n else .real (realText n 0)
  | decimal m places => .real (realText m places)
  | text s => .text s
  | items _ => .sequence
  | fields _ => .mapping

private def mismatch {α : Type} (v : Datum) (expected : String) : Except DataError α :=
  .error (.invalidType v.found expected)

private def readNatural : Datum → Except DataError Nat
  | integer n =>
    if n ≥ wordBound ∨ 2 * n < -wordBound then (integer n).mismatch "u64"
    else if n < 0 then .error (.invalidValue (.integer n) "u64")
    else .ok n.toNat
  | v => v.mismatch "u64"

/-- A variant is its name, or its name with nothing under it. -/
private def readVariant {α : Type} (cases : List (String × α)) : Datum → Except DataError α
  | text name => chooseVariant cases name
  | fields [(name, content)] => do
    let a ← chooseVariant cases name
    match content with
    | null => return a
    | v => v.mismatch "unit"
  | fields _ => .error (.invalidValue .mapping "map with a single key")
  | v => v.mismatch "string or map"

instance : Source Datum where
  text expected
    | text s => .ok s
    | v => v.mismatch expected
  natural := readNatural
  flag
    | flag b => .ok b
    | v => v.mismatch "a boolean"
  variant := readVariant
  items
    | items values => .ok values
    | v => v.mismatch "a sequence"
  entries
    | fields entries => .ok (entries.map fun e => (text e.1, e.2))
    | v => v.mismatch "a map"
  parts expected
    | fields entries => .ok (.named (entries.map fun e => (text e.1, e.2)))
    | items values => .ok (.positional values)
    | v => v.mismatch expected
  isAbsent
    | null => .ok true
    | _ => .ok false
  skip _ := .ok ()

end Datum

end MetastoreFederation.Document
