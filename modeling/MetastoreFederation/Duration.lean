/-!
Spans of time in whole nanoseconds, and their text: a sequence of counts with units, largest unit
first, as in `1h 30m`.
-/

set_option autoImplicit false
set_option relaxedAutoImplicit false

namespace MetastoreFederation

/-- A span of time, in nanoseconds. -/
structure Duration where
  nanos : Nat
deriving DecidableEq, Repr, Inhabited

namespace Duration

/-- Nanoseconds in a second. -/
def perSecond : Nat := 1000000000

/-- Nanoseconds in a millisecond. -/
def perMilli : Nat := 1000000

def ofSeconds (n : Nat) : Duration := ⟨n * perSecond⟩

def ofMillis (n : Nat) : Duration := ⟨n * perMilli⟩

/-- The whole seconds of the span. -/
def seconds (d : Duration) : Nat := d.nanos / perSecond

/-- The nanoseconds beyond the whole seconds. -/
def subsecond (d : Duration) : Nat := d.nanos % perSecond

/-- The whole milliseconds of the span. -/
def millis (d : Duration) : Nat := d.nanos / perMilli

def isZero (d : Duration) : Bool := d.nanos == 0

instance : Add Duration := ⟨fun a b => ⟨a.nanos + b.nanos⟩⟩

/-- A count with its unit, or nothing for the count zero. -/
private def part (unit : String) (n : Nat) : List String :=
  if n = 0 then [] else [toString n ++ unit]

/-- A count with a spelled-out unit, which takes an s unless the count is one. -/
private def spelledPart (unit : String) (n : Nat) : List String :=
  part (if n = 1 then unit else unit ++ "s") n

/-- The parts of the text, largest unit first. A year has 365.25 days and a month a twelfth of
them, rounded up to 30.44 days. -/
def parts (d : Duration) : List String :=
  let s := d.seconds
  let inYear := s % 31557600
  let inMonth := inYear % 2630016
  let inDay := inMonth % 86400
  let n := d.subsecond
  spelledPart "year" (s / 31557600) ++ spelledPart "month" (inYear / 2630016) ++
    spelledPart "day" (inMonth / 86400) ++ part "h" (inDay / 3600) ++
    part "m" (inDay % 3600 / 60) ++ part "s" (inDay % 60) ++ part "ms" (n / 1000000) ++
    part "us" (n / 1000 % 1000) ++ part "ns" (n % 1000)

/-- The text of a span. -/
def render (d : Duration) : String :=
  if d.isZero then "0s" else " ".intercalate d.parts

end Duration

end MetastoreFederation
