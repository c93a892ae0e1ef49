import MetastoreFederation.Regex.CharSet

/-!
Regular expressions and what they match. A place of a text lies before, between or after its
characters; an expression takes the places where a match may start to those where it may end. Which
of several matches is preferred, and which groups capture what, has no bearing on that.
-/

set_option autoImplicit false
set_option relaxedAutoImplicit false

namespace MetastoreFederation.Regex

/-- The ways in which a place can lie at a word. -/
inductive WordPlace
  | boundary
  | inside
  | start
  | stop
  | startHalf
  | stopHalf
deriving DecidableEq, Repr

/-- A condition on a place. -/
inductive Look
  | textStart
  | textEnd
  | lineStart (crlf : Bool)
  | lineEnd (crlf : Bool)
  | word (place : WordPlace) (ascii : Bool)
deriving DecidableEq, Repr

/-- A regular expression. -/
inductive Expr
  | empty
  | set (s : CharSet)
  | look (l : Look)
  | concat (a b : Expr)
  | alternate (a b : Expr)
  /-- At least `least` matches in a row, and at most `most` where that is given. -/
  | repeat (e : Expr) (least : Nat) (most : Option Nat)

/-- The characters before and after a place. -/
abbrev Neighbours := Option Char × Option Char

/-- The place lies at a word in the given way, if the characters before and after it belong to words
as given. -/
def WordPlace.holds (before after : Bool) : WordPlace → Bool
  | boundary => before != after
  | inside => before == after
  | start => !before && after
  | stop => before && !after
  | startHalf => !before
  | stopHalf => !after

/-- The condition holds between two characters. -/
def Look.holds (n : Neighbours) : Look → Bool
  | textStart => n.1.isNone
  | textEnd => n.2.isNone
  | lineStart false => n.1.all (· == '\n')
  | lineStart true => n.1.all (· == '\n') || (n.1 == some '\r' && n.2 != some '\n')
  | lineEnd false => n.2.all (· == '\n')
  | lineEnd true => n.2.all (· == '\r') || (n.2 == some '\n' && n.1 != some '\r')
  | word place ascii =>
    let isWord := if ascii then CharSet.isAsciiWord else CharSet.isWord
    place.holds (n.1.any isWord) (n.2.any isWord)

/-- The characters before and after each place of a text that follows `before`. -/
def neighbours (before : Option Char) : List Char → List Neighbours
  | [] => [(before, none)]
  | c :: s => (before, some c) :: neighbours (some c) s

/-- A mark for each place of a text. -/
abbrev Marks := List Bool

/-- Applies `f` up to `n` times, no more often than it changes anything. -/
def iterate (f : Marks → Marks) : Nat → Marks → Marks
  | 0, m => m
  | n + 1, m =>
    let next := f m
    if next = m then m else iterate f n next

namespace Expr

/-- Marks the places where a match ends that starts at a marked place. -/
def ends (text : List Char) : Expr → Marks → Marks
  | empty, m => m
  | set s, m => false :: List.zipWith (fun c mark => mark && s.holds c) text m
  | look l, m => List.zipWith (fun n mark => mark && l.holds n) (neighbours none text) m
  | concat a b, m => b.ends text (a.ends text m)
  | alternate a b, m => List.zipWith or (a.ends text m) (b.ends text m)
  | .repeat e least most, m =>
    let grow (m : Marks) : Marks := List.zipWith or m (e.ends text m)
    let further := match most with
      | some n => min (n - least) (text.length + 1)
      | none => text.length + 1
    iterate grow further (iterate (e.ends text) least m)

/-- Some part of the text is a match. -/
def isMatch (e : Expr) (text : String) : Bool :=
  (e.ends text.toList (List.replicate (text.length + 1) true)).any id

/-- One expression after another. -/
def sequence : List Expr → Expr
  | [] => empty
  | [e] => e
  | e :: es => concat e (sequence es)

/-- One of several expressions. -/
def choice : List Expr → Expr
  | [] => empty
  | [e] => e
  | e :: es => alternate e (choice es)

end Expr

end MetastoreFederation.Regex
