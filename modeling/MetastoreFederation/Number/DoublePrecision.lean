/-!
Positive numbers with a significand of 53 bits: the one nearest to a decimal, and its shortest
decimal text. A decimal falls to the number in whose interval it lies; the text has the fewest
digits of any decimal of that interval, and of those with as many digits it is the nearest.
-/

set_option autoImplicit false
set_option relaxedAutoImplicit false

namespace MetastoreFederation.Number.DoublePrecision

/-- The number `significand · 2 ^ exponent`. -/
structure Binary where
  significand : Nat
  exponent : Int
deriving DecidableEq, Repr

/-- A number as a quotient of natural numbers. -/
structure Quotient where
  num : Nat
  den : Nat

/-- The quotient times a power of the base. -/
def Quotient.scale (x : Quotient) (base : Nat) : Int → Quotient
  | .ofNat n => ⟨x.num * base.pow n, x.den⟩
  | .negSucc n => ⟨x.num, x.den * base.pow (n + 1)⟩

/-- The natural number next to the quotient; a half goes to the even neighbour. -/
def Quotient.round (x : Quotient) : Nat :=
  let q := x.num / x.den
  let r := x.num % x.den
  if 2 * r > x.den ∨ (2 * r = x.den ∧ q % 2 = 1) then q + 1 else q

def Quotient.lt (x y : Quotient) : Bool := x.num * y.den < y.num * x.den

/-- The least exponent of a number. -/
def leastExponent : Int := -1074

/-- The greatest exponent of a number. -/
def greatestExponent : Int := 971

/-- The least significand of a number whose exponent is not the least. -/
def leastSignificand : Nat := Nat.pow 2 52

/-- The number nearest to a quotient, if the quotient is not too large. -/
def ofQuotient? (x : Quotient) : Option Binary :=
  if x.num = 0 then some ⟨0, leastExponent⟩
  else
    let low := max ((x.num.log2 : Int) - x.den.log2 - 53) leastExponent
    let scaled := x.scale 2 (-low)
    let excess := (scaled.num / scaled.den).log2 - 52
    let exponent := low + excess
    let significand := (x.scale 2 (-exponent)).round
    let result : Binary :=
      if significand = 2 * leastSignificand then ⟨leastSignificand, exponent + 1⟩
      else ⟨significand, exponent⟩
    if result.exponent > greatestExponent then none else some result

/-- The number nearest to `digits · 10 ^ exponent`, if that is not too large. -/
def ofDecimal? (digits : Nat) (exponent : Int) : Option Binary :=
  let size := (toString digits).length + exponent
  if digits = 0 ∨ size < -330 then some ⟨0, leastExponent⟩
  else if size > 310 then none
  else ofQuotient? (Quotient.scale ⟨digits, 1⟩ 10 exponent)

def Binary.value (b : Binary) : Quotient :=
  Quotient.scale ⟨b.significand, 1⟩ 2 b.exponent

/-- The ends of the interval of decimals that fall to a number. -/
def Binary.ends (b : Binary) : Quotient × Quotient :=
  let atPower := b.significand = leastSignificand ∧ b.exponent > leastExponent
  (Quotient.scale ⟨4 * b.significand - (if atPower then 1 else 2), 1⟩ 2 (b.exponent - 2),
    Quotient.scale ⟨4 * b.significand + 2, 1⟩ 2 (b.exponent - 2))

/-- A decimal falls to the number; the ends do if the significand is even. -/
def Binary.holds (b : Binary) (x : Quotient) : Bool :=
  if b.significand % 2 = 0 then !x.lt b.ends.1 && !b.ends.2.lt x
  else b.ends.1.lt x && x.lt b.ends.2

/-- The decimal exponent of the leading digit of a positive quotient. -/
def leadingPlace (x : Quotient) : Int :=
  if x.num ≥ x.den then ((toString (x.num / x.den)).length : Int) - 1
  else
    match (List.range 400).find? fun j => x.num * Nat.pow 10 j ≥ x.den with
    | some j => -(j : Int)
    | none => -400

/-- A decimal `digits · 10 ^ exponent`. -/
structure Decimal where
  digits : Nat
  exponent : Int
deriving DecidableEq, Repr

def Decimal.value (d : Decimal) : Quotient := Quotient.scale ⟨d.digits, 1⟩ 10 d.exponent

/-- The decimal without zeros at the end of its digits. -/
def Decimal.trim (d : Decimal) : Decimal :=
  let zeros := ((Nat.toDigits 10 d.digits).reverse.takeWhile (· == '0')).length
  if d.digits = 0 then ⟨0, 0⟩ else ⟨d.digits / Nat.pow 10 zeros, d.exponent + zeros⟩

/-- The neighbours of the number on the decimal grid with `count` digits that fall to it, the nearer
first. -/
def Binary.onGrid (b : Binary) (count : Nat) : List Decimal :=
  let x := b.value
  let exponent := leadingPlace x + 1 - count
  let scaled := x.scale 10 (-exponent)
  let below := scaled.num / scaled.den
  let upper := 2 * (scaled.num % scaled.den) > scaled.den
  let pair : List Decimal := [⟨below, exponent⟩, ⟨below + 1, exponent⟩]
  (if upper then pair.reverse else pair).filter fun d => b.holds d.value

/-- The shortest decimal of a number. -/
def Binary.shortest (b : Binary) : Decimal :=
  if b.significand = 0 then ⟨0, 0⟩
  else
    match ((List.range 17).map (· + 1)).flatMap b.onGrid with
    | d :: _ => d.trim
    | [] => ⟨0, 0⟩

/-- The decimal with all its places and at least one behind the point. -/
def Decimal.render (d : Decimal) : String :=
  let digits := Nat.toDigits 10 d.digits
  if d.exponent ≥ 0 then
    String.ofList (digits ++ List.replicate d.exponent.toNat '0') ++ ".0"
  else
    let places := d.exponent.natAbs
    let padded := List.replicate (places + 1 - digits.length) '0' ++ digits
    let cut := padded.length - places
    String.ofList (padded.take cut ++ '.' :: padded.drop cut)

example : ((ofDecimal? 15 (-1)).map fun b => b.shortest.render) = some "1.5" := by
  decide +kernel

example : ((ofDecimal? 1 3).map fun b => b.shortest.render) = some "1000.0" := by
  decide +kernel

example : ((ofDecimal? 1 (-7)).map fun b => b.shortest.render) = some "0.0000001" := by
  decide +kernel

end MetastoreFederation.Number.DoublePrecision
