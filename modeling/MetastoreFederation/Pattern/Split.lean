import MetastoreFederation.Pattern.Glob

/-!
The share of one pattern clause that falls to the names behind a prefix. The clause is cut after
its longest leading segment that covers the prefix; a star at the end of the segment belongs to the
remainder as well, a dot does not.
-/

set_option autoImplicit false
set_option relaxedAutoImplicit false

namespace MetastoreFederation.Pattern.Split

open Glob (isWildcard covers)

/-- A leading segment of a clause and what the clause asks of the names behind it. -/
structure Cut where
  consumed : List Char
  remainder : List Char
deriving DecidableEq, Repr

/-- The next shorter segment to try, both written last character first. A wildcard at the end is
given up; then the segment ends at its last star, or one character earlier if its last wildcard is
a dot. A segment without wildcards has no shorter one to try. -/
def shorter? (segment : List Char) : Option (List Char) :=
  let body := match segment with
    | c :: rest => if isWildcard c then rest else segment
    | [] => []
  match body.find? isWildcard with
  | some '*' => some (body.dropWhile fun c => !isWildcard c)
  | some _ => some body.tail
  | none => none

/-- At most `fuel` segments, from the given one on, in the order in which they are tried. -/
def segmentsFrom : Nat → List Char → List (List Char)
  | 0, _ => []
  | fuel + 1, segment =>
    segment :: match shorter? segment with
      | some next => segmentsFrom fuel next
      | none => []

/-- The leading segments of a clause that are tried, longest first. -/
def segments (clause : List Char) : List (List Char) :=
  (segmentsFrom (clause.length + 1) clause.reverse).map List.reverse

/-- What the clause asks behind its leading segment. -/
def remainderAfter (clause segment : List Char) : List Char :=
  if segment.getLast? = some '*' then clause.drop (segment.length - 1)
  else clause.drop segment.length

/-- The cut of a clause for the names behind `start`, if one can be such a name. A clause that
begins with the very text `start` is cut there. -/
def cut? (start clause : List Char) : Option Cut :=
  match start.isPrefixOf? clause with
  | some rest => some ⟨start, rest⟩
  | none =>
    ((segments clause).find? fun segment => covers segment start).map fun segment =>
      ⟨segment, remainderAfter clause segment⟩

end MetastoreFederation.Pattern.Split
