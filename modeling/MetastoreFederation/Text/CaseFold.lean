import MetastoreFederation.Text.Lowercase

/-!
Characters that are equal but for case, one by one. Most agree in lower case; some letters are
further forms of another lower-case letter.
-/

set_option autoImplicit false
set_option relaxedAutoImplicit false

namespace MetastoreFederation.Text.CaseFold

/-- Lower-case letters that are a further form of another one. -/
def furtherForms : List (Char × Char) :=
  [('\u00b5', '\u03bc'), ('\u017f', 's'), ('\u0345', '\u03b9'), ('\u03c2', '\u03c3'),
    ('\u03d0', '\u03b2'), ('\u03d1', '\u03b8'), ('\u03d5', '\u03c6'), ('\u03d6', '\u03c0'),
    ('\u03f0', '\u03ba'), ('\u03f1', '\u03c1'), ('\u03f5', '\u03b5'), ('\u1c80', '\u0432'),
    ('\u1c81', '\u0434'), ('\u1c82', '\u043e'), ('\u1c83', '\u0441'), ('\u1c84', '\u0442'),
    ('\u1c85', '\u0442'), ('\u1c86', '\u044a'), ('\u1c87', '\u0463'), ('\u1c88', '\ua64b'),
    ('\u1e9b', '\u1e61'), ('\u1fbe', '\u03b9'), ('\u1fd3', '\u0390'), ('\u1fe3', '\u03b0'),
    ('\ufb05', '\ufb06')]

/-- The letter that stands for all that are equal to it but for case. -/
def fold (c : Char) : Char :=
  if c.toNat < 128 then c.toLower else (furtherForms.lookup c).getD (Lowercase.lowerChar c)

/-- The characters that differ from `c` at most in case. -/
def variants (c : Char) : List Char :=
  let k := fold c
  let capitals := Lowercase.Table.runs.filterMap fun r =>
    let n := ((k.toNat : Int) - r.shift).toNat
    if r.holds n then some (Char.ofNat n) else none
  let further := furtherForms.filterMap fun f => if f.2 = k then some f.1 else none
  k :: k.toUpper :: capitals ++ further

/-- The ASCII letters that differ from `c` at most in case. -/
def asciiVariants (c : Char) : List Char := [c, c.toLower, c.toUpper]

end MetastoreFederation.Text.CaseFold
