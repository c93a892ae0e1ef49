import MetastoreFederation.Text.Lowercase.Table

/-!
Lower-casing of whole texts. Each letter becomes its lower-case form; a capital dotted I becomes an
i under a dot, and a capital sigma that ends a word becomes the final form of the letter.
-/

set_option autoImplicit false
set_option relaxedAutoImplicit false

namespace MetastoreFederation.Text.Lowercase

private def within (ranges : List (Nat × Nat)) (c : Char) : Bool :=
  ranges.any fun r => r.1 ≤ c.toNat && c.toNat ≤ r.2

/-- The character is a letter with case. -/
def isCased (c : Char) : Bool := within Table.cased c

/-- The character is passed over when the neighbours of a sigma are sought. -/
def isCaseIgnorable (c : Char) : Bool := within Table.caseIgnorable c

/-- The lower-case form of one character, where that is one character. -/
def lowerChar (c : Char) : Char :=
  if c.toNat < 128 then c.toLower
  else
    match Table.runs.find? fun r => r.holds c.toNat with
    | some r => Char.ofNat (c.toNat + r.shift).toNat
    | none => c

/-- Past the case-ignorable characters stands a cased one. -/
def casedAhead (s : List Char) : Bool :=
  match s.dropWhile isCaseIgnorable with
  | [] => false
  | c :: _ => isCased c

/-- The lower-case form of a character between the text before it, last first, and after it. -/
def lowerBetween (before : List Char) (c : Char) (after : List Char) : List Char :=
  if c = 'İ' then ['i', '\u0307']
  else if c = 'Σ' then [if casedAhead before && !casedAhead after then 'ς' else 'σ']
  else [lowerChar c]

/-- The lower-case form of the text `s` that follows `before`, given last character first. -/
def lowerFrom (before : List Char) : List Char → List Char
  | [] => []
  | c :: s => lowerBetween before c s ++ lowerFrom (c :: before) s

/-- The text in lower case. -/
def lower (s : String) : String :=
  String.ofList (lowerFrom [] s.toList)

/-- The texts differ at most in case. -/
def sameLower (s t : String) : Bool :=
  lower s == lower t

end MetastoreFederation.Text.Lowercase
