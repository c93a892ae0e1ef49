import MetastoreFederation.Document.DataError

/-!
Reading of typed values. A source is a tree of some format from which texts, numbers, sequences and
records are read, each with the format's own view of what may stand for what. Records are read in
one way for all formats: fields in any order, unknown ones passed over, none twice.
-/

set_option autoImplicit false
set_option relaxedAutoImplicit false

namespace MetastoreFederation.Document

/-- The parts of a record as a document gives them: under names, or in the order of the fields. -/
inductive Parts (ν : Type)
  | named (entries : List (ν × ν))
  | positional (values : List ν)

/-- A tree from which values are read. The text given with a method names what was expected. -/
class Source (ν : Type) where
  /-- A text, expected under a name. -/
  text : String → ν → Except DataError String
  /-- A natural number of 64 bits. -/
  natural : ν → Except DataError Nat
  flag : ν → Except DataError Bool
  /-- One of the named values. -/
  variant {α : Type} : List (String × α) → ν → Except DataError α
  items : ν → Except DataError (List ν)
  entries : ν → Except DataError (List (ν × ν))
  /-- The parts of a record, expected under a name. -/
  parts : String → ν → Except DataError (Parts ν)
  /-- Whether the tree says that there is no value. -/
  isAbsent : ν → Except DataError Bool
  /-- Passes over a tree. -/
  skip : ν → Except DataError Unit

variable {ν : Type} [Source ν]

def readText (v : ν) : Except DataError String := Source.text "a string" v

/-- The members of a sequence, each read in turn. -/
def readList {α : Type} (read : ν → Except DataError α) (v : ν) : Except DataError (List α) := do
  (← Source.items v).mapM read

/-- A value, or none where the tree says so. -/
def readOption {α : Type} (read : ν → Except DataError α) (v : ν) :
    Except DataError (Option α) := do
  if ← Source.isAbsent v then return none else return some (← read v)

/-- The value of a name in a list of named values. -/
def chooseVariant {α : Type} (cases : List (String × α)) (name : String) : Except DataError α :=
  match cases.lookup name with
  | some a => .ok a
  | none => .error (.unknownVariant name (cases.map Prod.fst))

/-- A field of a record: its name, whether it may be left out, and how its value is entered. -/
structure Field (ν ρ : Type) where
  name : String
  required : Bool
  enter : ν → ρ → Except DataError ρ

/-- A record type of documents: how messages call it, and its fields in order. -/
structure RecordType (ν ρ : Type) where
  title : String
  fields : List (Field ν ρ)
  /-- The record before any field is entered. -/
  blank : ρ

namespace RecordType

variable {ρ : Type}

/-- Enters named fields into a record whose fields `seen` are filled. -/
def enterNamed (type : RecordType ν ρ) :
    List String → ρ → List (ν × ν) → Except DataError (List String × ρ)
  | seen, record, [] => .ok (seen, record)
  | seen, record, (key, value) :: rest => do
    let name ← Source.text "field identifier" key
    match type.fields.find? fun field => field.name == name with
    | none =>
      Source.skip value
      type.enterNamed seen record rest
    | some field =>
      if name ∈ seen then .error (.duplicateField name)
      else type.enterNamed (name :: seen) (← field.enter value record) rest

/-- The first required field that is not among the given ones. -/
def missing? (type : RecordType ν ρ) (seen : List String) : Option String :=
  (type.fields.find? fun field => field.required && !seen.contains field.name).map Field.name

/-- Enters values in the order of the fields, of which `index` have been entered. -/
def enterInOrder (type : RecordType ν ρ) (length : Nat) :
    List (Field ν ρ) → Nat → ρ → List ν → Except DataError ρ
  | [], _, record, [] => .ok record
  | [], _, _, _ :: _ => .error (.invalidLength length "fewer elements in array")
  | field :: fields, index, record, [] =>
    if field.required then
      .error (.invalidLength index s!"struct {type.title} with {type.fields.length} elements")
    else type.enterInOrder length fields (index + 1) record []
  | field :: fields, index, record, value :: values => do
    type.enterInOrder length fields (index + 1) (← field.enter value record) values

/-- Reads a record. -/
def read (type : RecordType ν ρ) (v : ν) : Except DataError ρ := do
  match ← Source.parts s!"struct {type.title}" v with
  | .named entries =>
    let (seen, record) ← type.enterNamed [] type.blank entries
    match type.missing? seen with
    | some name => .error (.missingField name)
    | none => .ok record
  | .positional values => type.enterInOrder values.length type.fields 0 type.blank values

end RecordType

end MetastoreFederation.Document
