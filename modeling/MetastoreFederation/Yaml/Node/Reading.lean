import MetastoreFederation.Document.Source
import MetastoreFederation.Yaml.Node
import MetastoreFederation.Yaml.Plain

/-!
Typed values of YAML documents. Any scalar may be read as a text. Numbers and truth values must be
plain scalars, or bear the tag of their type; an empty plain scalar stands for an empty collection.
-/

set_option autoImplicit false
set_option relaxedAutoImplicit false

namespace MetastoreFederation.Yaml

open Document

/-- The full tag of one of the types that every document knows. -/
def coreTag (name : String) : String := "tag:yaml.org,2002:" ++ name

namespace Node

/-- A whole number, as messages describe it. -/
def wholeNumber (n : Int) : Found :=
  if Plain.fits 64 n then .integer n else .wideInteger n

/-- What a plain scalar turns out to be. -/
def plainFound (text : String) : Found :=
  match Plain.meaning text with
  | .nothing => .unit
  | .truth b => .boolean b
  | .integer n => wholeNumber n
  | .real digits => .real digits
  | .text => .text text

/-- The fault of a scalar that is not what was expected. One that is not even what its tag says is
found wanting for that. -/
def scalarMismatch (text : String) (style : ScalarStyle) (tag : Option String)
    (expected : String) : DataError :=
  let typed (found : Option Found) (kind : String) : DataError :=
    match found with
    | some found => .invalidType found expected
    | none => .invalidValue (.text text) kind
  let untyped : DataError :=
    .invalidType (if style = .plain then plainFound text else .text text) expected
  match tag with
  | none => untyped
  | some tag =>
    if tag = coreTag "bool" then typed ((Plain.truth? text).map .boolean) "a boolean"
    else if tag = coreTag "int" then typed ((Plain.whole? text).map wholeNumber) "an integer"
    else if tag = coreTag "float" then typed ((Plain.real? text).map .real) "a float"
    else if tag = coreTag "null" then
      typed (if Plain.isNothing text then some .unit else none) "null"
    else if tag.startsWith "!" then untyped
    else .invalidType (.text text) expected

/-- The fault of a node that is not what was expected. -/
def mismatch {α : Type} (v : Node) (expected : String) : Except DataError α :=
  .error <| match v with
    | scalar text style tag => scalarMismatch text style tag expected
    | sequence _ _ | cycle false => .invalidType .sequence expected
    | mapping _ _ | cycle true => .invalidType .mapping expected
    | broken => .brokenOff

/-- The node is an empty plain scalar. -/
def isBlank : Node → Bool
  | scalar text style _ => text.isEmpty && style == .plain
  | _ => false

/-- A plain scalar, or a literal one with the tag of the type. -/
def typedText? (type : String) : Node → Option String
  | scalar text .plain _ => some text
  | scalar text .literal (some tag) => if tag = coreTag type then some text else none
  | _ => none

private def readText (expected : String) : Node → Except DataError String
  | scalar text _ _ => .ok text
  | v => v.mismatch expected

def readNatural (v : Node) : Except DataError Nat :=
  match ((v.typedText? "int").bind Plain.natural?).filter fun (n : Nat) => Plain.fits 64 n with
  | some n => .ok n
  | none => v.mismatch "u64"

private def readFlag (v : Node) : Except DataError Bool :=
  match (v.typedText? "bool").bind Plain.truth? with
  | some b => .ok b
  | none => v.mismatch "a boolean"

/-- The variant that is named by a tag, without the sign in front. -/
def variantTag? (tag : Option String) : Option String :=
  tag.bind fun tag =>
    match tag.toList with
    | ['!'] => some "!"
    | '!' :: name => some (String.ofList name)
    | _ => none

/-- Nothing may stand behind a tag that names a variant. -/
private def expectNothing : Node → Except DataError Unit
  | scalar text style _ =>
    if style == .plain && (text.isEmpty || Plain.isNothing text) then .ok ()
    else .error (.invalidValue (.text text) "null")
  | v => v.mismatch "unit"

private def readVariant {α : Type} (cases : List (String × α)) (v : Node) : Except DataError α := do
  let tag := match v with
    | scalar _ _ tag | sequence _ tag | mapping _ tag => tag
    | _ => none
  match variantTag? tag with
  | some name =>
    let a ← chooseVariant cases name
    v.expectNothing
    return a
  | none =>
    match v with
    | scalar text _ _ => chooseVariant cases text
    | v => v.mismatch "a YAML tag starting with '!'"

private def readEntries (expected : String) (v : Node) : Except DataError (List (Node × Node)) :=
  match v with
  | mapping entries _ => .ok entries
  | cycle true => .error .brokenOff
  | v => if v.isBlank then .ok [] else v.mismatch expected

private def readItems (v : Node) : Except DataError (List Node) :=
  match v with
  | sequence members _ => .ok members
  | cycle false => .error .brokenOff
  | v => if v.isBlank then .ok [] else v.mismatch "a sequence"

private def readAbsent : Node → Except DataError Bool
  | scalar text .plain none => .ok (text.isEmpty || Plain.isNothing text)
  | scalar text .plain (some tag) =>
    if tag = coreTag "null" then
      if Plain.isNothing text then .ok true else .error (.invalidValue (.text text) "null")
    else .ok false
  | broken => .error .brokenOff
  | _ => .ok false

mutual

/-- The text does not break off inside the node. -/
def isWhole : Node → Bool
  | scalar _ _ _ | cycle _ => true
  | sequence members _ => membersWhole members
  | mapping entries _ => entriesWhole entries
  | broken => false

/-- The text does not break off inside any of the nodes. -/
def membersWhole : List Node → Bool
  | [] => true
  | v :: rest => v.isWhole && membersWhole rest

/-- The text does not break off inside any of the keys and values. -/
def entriesWhole : List (Node × Node) → Bool
  | [] => true
  | (k, v) :: rest => k.isWhole && v.isWhole && entriesWhole rest

end

instance : Source Node where
  text := readText
  natural := readNatural
  flag := readFlag
  variant := readVariant
  items := readItems
  entries := readEntries "a map"
  parts expected v := (readEntries expected v).map .named
  isAbsent := readAbsent
  skip v := if v.isWhole then .ok () else .error .brokenOff

end Node

/-- Reads the one document of a text. A fault in what the document holds is told before one that the
text has further on. -/
def readDocument {α : Type} (read : Node → Except DataError α) (text : String) :
    Except DataError α := do
  let tree := Tree.ofText text
  let value ← read tree.root
  if tree.sound then return value else .error .brokenOff

end MetastoreFederation.Yaml
