import MetastoreFederation.Yaml.ScalarText

/-!
Tokens of YAML texts: the marks of directives, documents, collections and their members, and the
scalars. The blocks that indentation opens and closes have tokens of their own.
-/

set_option autoImplicit false
set_option relaxedAutoImplicit false

namespace MetastoreFederation.Yaml

inductive Token
  | version (major minor : Nat)
  /-- A directive that gives tags behind a handle a common start. -/
  | tagHandle (handle start : String)
  | documentStart
  | documentEnd
  | blockSequence
  | blockMapping
  | blockEnd
  | flowSequence
  | flowSequenceEnd
  | flowMapping
  | flowMappingEnd
  | blockEntry
  | flowEntry
  | key
  | value
  /-- A node that was given elsewhere. -/
  | reference (name : String)
  | anchor (name : String)
  | tag (handle suffix : String)
  | scalar (text : String) (style : ScalarStyle)
  | streamEnd
deriving DecidableEq, Repr

end MetastoreFederation.Yaml
