import MetastoreFederation.Duration.Parser
import MetastoreFederation.Text.Quoted

/-!
Faults of documents: a document may be well written and still not hold the values that are to be
read from it. Each fault names what was found and what was expected.
-/

set_option autoImplicit false
set_option relaxedAutoImplicit false

namespace MetastoreFederation.Document

/-- What stands where another value was expected. -/
inductive Found
  | unit
  | null
  | boolean (value : Bool)
  | integer (value : Int)
  | wideInteger (value : Int)
  | real (digits : String)
  | text (value : String)
  | sequence
  | mapping
deriving DecidableEq, Repr

/-- A value in the code quotes of messages. -/
def coded (text : String) : String := "\x60" ++ text ++ "\x60"

def Found.describe : Found → String
  | .unit => "unit value"
  | .null => "null"
  | .boolean true => "boolean " ++ coded "true"
  | .boolean false => "boolean " ++ coded "false"
  | .integer n => "integer " ++ coded (toString n)
  | .wideInteger n => "integer " ++ coded (toString n) ++ (if n < 0 then " as i128" else " as u128")
  | .real digits => "floating point " ++ coded digits
  | .text s => "string " ++ Text.Quoted.quote s
  | .sequence => "sequence"
  | .mapping => "map"

/-- Why a document does not hold the value that is read from it. -/
inductive DataError
  | missingField (name : String)
  | duplicateField (name : String)
  | unknownVariant (found : String) (expected : List String)
  | invalidType (found : Found) (expected : String)
  | invalidValue (found : Found) (expected : String)
  | invalidLength (length : Nat) (expected : String)
  | duration (cause : Duration.ParseError)
  /-- The text stops being a document before the value is complete. -/
  | brokenOff
deriving DecidableEq, Repr

/-- The choices of a message. -/
def choices : List String → String
  | [] => "there are no variants"
  | [a] => "expected " ++ coded a
  | [a, b] => "expected " ++ coded a ++ " or " ++ coded b
  | names => "expected one of " ++ ", ".intercalate (names.map coded)

/-- The text of a fault. Where the text itself breaks off there is none. -/
def DataError.message? : DataError → Option String
  | .missingField name => some ("missing field " ++ coded name)
  | .duplicateField name => some ("duplicate field " ++ coded name)
  | .unknownVariant found expected =>
    some ("unknown variant " ++ coded found ++ ", " ++ choices expected)
  | .invalidType found expected =>
    some ("invalid type: " ++ found.describe ++ ", expected " ++ expected)
  | .invalidValue found expected =>
    some ("invalid value: " ++ found.describe ++ ", expected " ++ expected)
  | .invalidLength length expected => some s!"invalid length {length}, expected {expected}"
  | .duration cause => some cause.message
  | .brokenOff => none

end MetastoreFederation.Document
