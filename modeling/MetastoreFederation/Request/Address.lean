/-!
Network addresses of callers. An address is four decimal octets, or eight hexadecimal groups of
which one run of zeros may be left out and the last two may be written as four octets.
-/

set_option autoImplicit false
set_option relaxedAutoImplicit false

namespace MetastoreFederation.Request

/-- A network address of version 4 or 6. -/
inductive Address
  | octets (values : List Nat)
  | groups (values : List Nat)
deriving DecidableEq, Repr

namespace Address

/-- The value of a digit in some base up to sixteen. -/
def digitValue? (base : Nat) (c : Char) : Option Nat :=
  let value? :=
    if c.isDigit then some (c.toNat - '0'.toNat)
    else if 'a' ≤ c ∧ c ≤ 'f' then some (c.toNat - 'a'.toNat + 10)
    else if 'A' ≤ c ∧ c ≤ 'F' then some (c.toNat - 'A'.toNat + 10)
    else none
  value?.filter (· < base)

/-- A number of at least one and at most `width` digits. -/
def number? (base width : Nat) (s : List Char) : Option Nat :=
  if s.isEmpty || s.length > width then none
  else s.foldlM (fun n c => (digitValue? base c).map (base * n + ·)) 0

/-- An octet, which has no zeros in front. -/
def octet? (s : List Char) : Option Nat :=
  if s.length > 1 && s.head? == some '0' then none else (number? 10 3 s).filter (· < 256)

def octets? (s : List Char) : Option (List Nat) := do
  let values ← (s.splitOn '.').mapM octet?
  if values.length = 4 then some values else none

/-- Four octets as two groups. -/
def pairs : List Nat → List Nat
  | a :: b :: rest => (256 * a + b) :: pairs rest
  | rest => rest

/-- Groups between colons, the last two of which may be octets where that is allowed. -/
def run? (octetsAllowed : Bool) (s : List Char) : Option (List Nat) :=
  if s.isEmpty then some []
  else
    let parts := s.splitOn ':'
    match parts.getLast?.bind octets? with
    | some last =>
      if octetsAllowed then (parts.dropLast.mapM (number? 16 4)).map (· ++ pairs last) else none
    | none => parts.mapM (number? 16 4)

/-- What stands before and after the first double colon. -/
def cutGap? : List Char → Option (List Char × List Char)
  | ':' :: ':' :: rest => some ([], rest)
  | c :: rest => (cutGap? rest).map fun (before, after) => (c :: before, after)
  | [] => none

def groups? (s : List Char) : Option (List Nat) := do
  match cutGap? s with
  | some (before, after) =>
    let head ← run? false before
    let tail ← run? true after
    if head.length + tail.length ≤ 7 then
      some (head ++ List.replicate (8 - head.length - tail.length) 0 ++ tail)
    else none
  | none => (run? true s).filter (·.length = 8)

/-- Reads an address. -/
def parse? (text : String) : Option Address :=
  ((octets? text.toList).map octets).or ((groups? text.toList).map groups)

/-- The length of the run of zeros at the front. -/
def zeros (values : List Nat) : Nat := (values.takeWhile (· = 0)).length

/-- Where the longest run of zeros starts, the first of several, and its length. -/
def longestGap (values : List Nat) : Nat × Nat :=
  (List.range values.length).foldl
    (fun best i => if zeros (values.drop i) > best.2 then (i, zeros (values.drop i)) else best)
    (0, 0)

private def joined (separator : String) (base : Nat) (values : List Nat) : String :=
  separator.intercalate (values.map fun n => String.ofList (Nat.toDigits base n))

/-- The text of an address. The longest run of zero groups is left out if it has more than one, and
an address of version 4 inside one of version 6 keeps its octets. -/
def render : Address → String
  | octets values => joined "." 10 values
  | groups [0, 0, 0, 0, 0, 0xffff, a, b] =>
    "::ffff:" ++ joined "." 10 [a / 256, a % 256, b / 256, b % 256]
  | groups values =>
    let (start, length) := longestGap values
    if length > 1 then
      joined ":" 16 (values.take start) ++ "::" ++ joined ":" 16 (values.drop (start + length))
    else joined ":" 16 values

end Address

/-- Who issues a call: the address, where it is known, and the text by which the call is followed
across metastores. -/
structure Caller where
  address : Option Address
  correlation : String

/-- The correlation text, with the address behind an at sign. -/
def Caller.render (c : Caller) : String :=
  match c.address with
  | some address => c.correlation ++ "@" ++ address.render
  | none => c.correlation

end MetastoreFederation.Request
