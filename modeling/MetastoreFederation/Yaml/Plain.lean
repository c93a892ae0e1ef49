import MetastoreFederation.Number.DoublePrecision

/-!
What a plain scalar stands for: nothing, a truth value, a number, or the text itself. Numbers may be
written in four bases; digits behind a zero are a text, and so is a number that no double holds.
-/

set_option autoImplicit false
set_option relaxedAutoImplicit false

namespace MetastoreFederation.Yaml.Plain

/-- The meaning of a plain scalar. -/
inductive Meaning
  | nothing
  | truth (value : Bool)
  | integer (value : Int)
  /-- The decimal text of a number in double precision. -/
  | real (digits : String)
  | text
deriving DecidableEq, Repr

def isNothing (s : String) : Bool :=
  ["null", "Null", "NULL", "~"].contains s

def truth? (s : String) : Option Bool :=
  if ["true", "True", "TRUE"].contains s then some true
  else if ["false", "False", "FALSE"].contains s then some false
  else none

/-- The value of a digit in a base up to sixteen. -/
def digit? (base : Nat) (c : Char) : Option Nat :=
  let n :=
    if c.isDigit then c.toNat - '0'.toNat
    else if 'a' ≤ c ∧ c ≤ 'f' then c.toNat - 'a'.toNat + 10
    else if 'A' ≤ c ∧ c ≤ 'F' then c.toNat - 'A'.toNat + 10
    else base
  if n < base then some n else none

/-- The value of one or more digits. -/
def digits? (base : Nat) (s : List Char) : Option Nat :=
  if s.isEmpty then none
  else s.foldlM (fun n c => (digit? base c).map (base * n + ·)) 0

/-- The text is made of digits behind a zero, with a sign or without. -/
def isPaddedNumber (s : List Char) : Bool :=
  let body := match s with
    | '-' :: rest => rest
    | '+' :: rest => rest
    | rest => rest
  body.length > 1 && body.head? == some '0' && body.tail.all Char.isDigit

/-- Digits with the mark of their base in front, if they are not decimal. -/
def magnitude? (s : List Char) : Option Nat :=
  match s with
  | '0' :: 'x' :: rest => digits? 16 rest
  | '0' :: 'o' :: rest => digits? 8 rest
  | '0' :: 'b' :: rest => digits? 2 rest
  | _ => if isPaddedNumber s then none else digits? 10 s

/-- A whole number without a minus sign. -/
def natural? (s : String) : Option Nat :=
  match s.toList with
  | '+' :: rest => magnitude? rest
  | body => magnitude? body

/-- A whole number with a minus sign. -/
def negative? (s : String) : Option Int :=
  match s.toList with
  | '-' :: rest => (magnitude? rest).map fun n => -(n : Int)
  | _ => none

/-- A decimal: the digits without the point, and the power of ten they are to be scaled by. -/
structure Scaled where
  digits : Nat
  exponent : Int

/-- An exponent with its mark, or none. -/
def exponent? (s : List Char) : Option Int :=
  match s with
  | [] => some 0
  | c :: rest =>
    if c = 'e' ∨ c = 'E' then
      match rest with
      | '-' :: rest => (digits? 10 rest).map fun n => -(n : Int)
      | '+' :: rest => (digits? 10 rest).map fun n => (n : Int)
      | rest => (digits? 10 rest).map fun n => (n : Int)
    else none

/-- A decimal, which has a digit before or behind the point. -/
def scaled? (s : List Char) : Option Scaled := do
  let whole := s.takeWhile Char.isDigit
  let rest := s.drop whole.length
  let fraction := match rest with
    | '.' :: rest => rest.takeWhile Char.isDigit
    | _ => []
  let rest := match rest with
    | '.' :: rest => rest.drop fraction.length
    | rest => rest
  let digits ← digits? 10 (whole ++ fraction)
  let exponent ← exponent? rest
  return ⟨digits, exponent - fraction.length⟩

/-- A number that a double holds. -/
def finite? (s : List Char) : Option String :=
  (scaled? s).bind fun d =>
    (Number.DoublePrecision.ofDecimal? d.digits d.exponent).map fun b => b.shortest.render

/-- A number in double precision, or one of the names of those that are not finite. -/
def real? (s : String) : Option String :=
  let unsigned := match s.toList with
    | '+' :: rest => rest
    | rest => rest
  let infinite (t : List Char) : Bool :=
    [".inf", ".Inf", ".INF"].contains (String.ofList t)
  if infinite unsigned then some "inf"
  else if s.startsWith "-" && infinite (s.toList.drop 1) then some "-inf"
  else if [".nan", ".NaN", ".NAN"].contains s then some "NaN"
  else
    match unsigned with
    | '-' :: rest => if s.startsWith "+" then none else (finite? rest).map ("-" ++ ·)
    | '+' :: _ => none
    | rest => finite? rest

/-- The number has a place among the words of so many bits, with a sign or without. -/
def fits (bits : Nat) (n : Int) : Bool :=
  if n < 0 then -n ≤ Nat.pow 2 (bits - 1) else n < Nat.pow 2 bits

/-- A whole number of at most 128 bits. -/
def whole? (s : String) : Option Int :=
  (((natural? s).map Int.ofNat).filter (fits 128)).or ((negative? s).filter (fits 128))

/-- What the plain scalar stands for. -/
def meaning (s : String) : Meaning :=
  if s.isEmpty || isNothing s then .nothing
  else
    match truth? s, whole? s with
    | some b, _ => .truth b
    | none, some n => .integer n
    | none, none =>
      if isPaddedNumber s.toList then .text
      else
        match real? s with
        | some digits => .real digits
        | none => .text

end MetastoreFederation.Yaml.Plain
