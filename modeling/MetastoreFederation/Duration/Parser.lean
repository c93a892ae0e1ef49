import MetastoreFederation.Duration
import MetastoreFederation.Text.Blank

/-!
Reading of spans of time. A text holds one or more counts, each with a unit, which may have a
fraction if the fraction comes out even in the unit below. Blanks may stand between digits, before a
unit and between counts. Positions in errors are counted in UTF-8 bytes.
-/

set_option autoImplicit false
set_option relaxedAutoImplicit false

namespace MetastoreFederation.Duration

open Text.Blank (isBlank)

/-- Why a text is no span of time. -/
inductive ParseError
  | empty
  | numberExpected (position : Nat)
  | invalidCharacter (position : Nat)
  | unitMissing (count : Nat)
  | unknownUnit (unit : String)
  | overflow
deriving DecidableEq, Repr

def ParseError.message : ParseError → String
  | .empty => "value was empty"
  | .numberExpected position => s!"expected number at {position}"
  | .invalidCharacter position => s!"invalid character at {position}"
  | .unitMissing count => s!"time unit needed, for example {count}sec or {count}ms"
  | .unknownUnit unit =>
    s!"unknown time unit \"{unit}\", supported units: ns, us/µs, ms, sec, min, hours, days, " ++
      "weeks, months, years (and few variations)"
  | .overflow =>
    "number is too large or cannot be represented without a lack of precision " ++
      "(values below 1ns are not supported)"

/-- A unit of time: how many grains it has, and the nanoseconds of a grain. A fraction of the unit
must come out even in grains. -/
structure TimeUnit where
  grains : Nat
  grain : Nat
  /-- The grains of the fraction, where they are finer than those of whole counts. -/
  fractionGrains : Nat
  fractionGrain : Nat

namespace TimeUnit

private def fine (nanos : Nat) : TimeUnit := ⟨nanos, 1, nanos, 1⟩

private def ofSeconds (n : Nat) : TimeUnit := ⟨n, perSecond, n, perSecond⟩

private def secondsInNanos (n : Nat) : TimeUnit := ⟨n, perSecond, n * perSecond, 1⟩

/-- The unit of a name. -/
def ofName? (name : String) : Option TimeUnit :=
  if name ∈ ["nanos", "nsec", "ns"] then some (fine 1)
  else if name ∈ ["usec", "us", "µs"] then some (fine 1000)
  else if name ∈ ["millis", "msec", "ms"] then some (fine perMilli)
  else if name ∈ ["seconds", "second", "secs", "sec", "s"] then some (secondsInNanos 1)
  else if name ∈ ["minutes", "minute", "min", "mins", "m"] then some (secondsInNanos 60)
  else if name ∈ ["hours", "hour", "hrs", "hr", "h"] then some (ofSeconds 3600)
  else if name ∈ ["days", "day", "d"] then some (ofSeconds 86400)
  else if name ∈ ["weeks", "week", "wks", "wk", "w"] then some (ofSeconds 604800)
  else if name ∈ ["months", "month", "M"] then some (ofSeconds 2630016)
  else if name ∈ ["years", "year", "yrs", "yr", "y"] then some (ofSeconds 31557600)
  else none

end TimeUnit

/-- Counts and sums stay below this bound. -/
def wordBound : Nat := 18446744073709551616

private def word (n : Nat) : Except ParseError Nat :=
  if n < wordBound then .ok n else .error .overflow

/-- The sum of a span and `count` grains of the given size. -/
private def addGrains (d : Duration) (count grain : Nat) : Except ParseError Duration := do
  if grain = 1 then let _ ← word (d.subsecond + count)
  let sum : Duration := ⟨d.nanos + count * grain⟩
  let _ ← word sum.seconds
  return sum

/-- A fraction written with `scale` = 10, 100, … for its one, two, … digits. -/
structure Fraction where
  digits : Nat
  scale : Nat

/-- Adds a count of the unit with the given name. -/
def addCount (d : Duration) (count : Nat) (fraction : Option Fraction) (name : String) :
    Except ParseError Duration := do
  match TimeUnit.ofName? name with
  | none => .error (if name.isEmpty then .unitMissing count else .unknownUnit name)
  | some unit =>
    let sum ← addGrains d (← word (count * unit.grains)) unit.grain
    match fraction with
    | none => return sum
    | some f =>
      if unit.fractionGrains = 1 then
        if unit.fractionGrain = 1 then throw .overflow
      let scaled ← word (f.digits * unit.fractionGrains)
      if scaled % f.scale = 0 then addGrains sum (scaled / f.scale) unit.fractionGrain
      else throw .overflow

/-- A place in the text: the characters from there on, and how many bytes stand before. -/
structure Place where
  rest : List Char
  position : Nat

private def Place.step (p : Place) (c : Char) (rest : List Char) : Place :=
  ⟨rest, p.position + c.utf8Size⟩

private def isUnitLetter (c : Char) : Bool :=
  c.isAlpha || c == 'µ'

private def digitValue (c : Char) : Nat :=
  c.toNat - '0'.toNat

/-- The first digit past blanks, if any character is left. The error names the place where the
search began. -/
def firstDigit (start : Nat) (position : Nat) :
    List Char → Except ParseError (Option (Nat × Place))
  | [] => .ok none
  | c :: s =>
    let next := position + c.utf8Size
    if c.isDigit then .ok (some (digitValue c, ⟨s, next⟩))
    else if isBlank c then firstDigit start next s
    else .error (.numberExpected start)

/-- What follows the digits of a number: the place of its unit, and the unit's first letter if
there is one. -/
structure NumberEnd where
  unitStart : Option Char
  place : Place

/-- The digits behind the point. The error of an empty fraction names the point. -/
def fractionDigits (point : Nat) (f : Fraction) (position : Nat) :
    List Char → Except ParseError (Fraction × NumberEnd)
  | [] =>
    if f.scale = 1 then .error (.invalidCharacter point) else .ok (f, ⟨none, ⟨[], position⟩⟩)
  | c :: s =>
    let next := position + c.utf8Size
    if c.isDigit then do
      let scale ← word (f.scale * 10)
      let digits ← word (f.digits * 10 + digitValue c)
      fractionDigits next ⟨digits, scale⟩ next s
    else if isBlank c then fractionDigits next f next s
    else if isUnitLetter c then
      if f.scale = 1 then .error (.invalidCharacter point) else .ok (f, ⟨some c, ⟨s, next⟩⟩)
    else .error (.invalidCharacter point)

/-- The remaining digits of a number whose leading digits are worth `n`. -/
def numberDigits (n : Nat) (position : Nat) :
    List Char → Except ParseError (Nat × Option Fraction × NumberEnd)
  | [] => .ok (n, none, ⟨none, ⟨[], position⟩⟩)
  | c :: s =>
    let next := position + c.utf8Size
    if c.isDigit then do
      let n ← word (n * 10 + digitValue c)
      numberDigits n next s
    else if isBlank c then numberDigits n next s
    else if isUnitLetter c then .ok (n, none, ⟨some c, ⟨s, next⟩⟩)
    else if c = '.' then do
      let (f, stop) ← fractionDigits position ⟨0, 1⟩ next s
      return (n, some f, stop)
    else .error (.invalidCharacter position)

/-- The letters of a unit, and what ended them: the end of the text, a blank, or the first digit of
the next number. -/
def unitLetters (position : Nat) : List Char → Except ParseError (List Char × Option Nat × Place)
  | [] => .ok ([], none, ⟨[], position⟩)
  | c :: s =>
    let next := position + c.utf8Size
    if c.isDigit then .ok ([], some (digitValue c), ⟨s, next⟩)
    else if isBlank c then .ok ([], none, ⟨s, next⟩)
    else if isUnitLetter c then do
      let (letters, digit, place) ← unitLetters next s
      return (c :: letters, digit, place)
    else .error (.invalidCharacter position)

/-- Reads at most `fuel` counts, the first of which starts with the digit `n`. -/
def counts : Nat → Duration → Nat → Place → Except ParseError Duration
  | 0, d, _, _ => .ok d
  | fuel + 1, d, n, place => do
    let (n, fraction, stop) ← numberDigits n place.position place.rest
    let (letters, digit, place) ← unitLetters stop.place.position stop.place.rest
    let d ← addCount d n fraction (String.ofList (stop.unitStart.toList ++ letters))
    match digit with
    | some n => counts fuel d n place
    | none =>
      match ← firstDigit place.position place.position place.rest with
      | some (n, place) => counts fuel d n place
      | none => return d

/-- Reads a span of time. A lone `0` needs no unit. -/
def parse (text : String) : Except ParseError Duration := do
  if text = "0" then return ⟨0⟩
  match ← firstDigit 0 0 text.toList with
  | none => throw .empty
  | some (n, place) => counts (text.length + 1) ⟨0⟩ n place

end MetastoreFederation.Duration
