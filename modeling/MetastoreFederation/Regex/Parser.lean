import MetastoreFederation.Regex.Expr

/-!
Reading of regular expressions. Flags hold from where they are set to the end of their group. What
has no meaning of its own behind a backslash, and what looks beyond the match, is refused.
-/

set_option autoImplicit false
set_option relaxedAutoImplicit false

namespace MetastoreFederation.Regex

open Text

/-- How the characters of an expression are to be read. -/
structure Flags where
  caseless : Bool := false
  multiline : Bool := false
  dotAll : Bool := false
  crlf : Bool := false
  /-- Blanks and comments in the expression do not count. -/
  spaced : Bool := false
  ascii : Bool := false
deriving DecidableEq, Repr

/-- The rest of an expression, with the flags that hold there and the names of the groups so far. -/
structure Input where
  rest : List Char
  flags : Flags
  names : List (List Char)

namespace Input

def skip (s : Input) (n : Nat) : Input := { s with rest := s.rest.drop n }

/-- Past blanks and comments, of which at most `fuel` are looked at. -/
def skipSpaced : Nat → List Char → List Char
  | 0, rest => rest
  | fuel + 1, rest =>
    match rest.dropWhile Blank.isBlank with
    | '#' :: comment => skipSpaced fuel ((comment.dropWhile (· != '\n')).drop 1)
    | rest => rest

/-- Past blanks and comments, where they do not count. -/
def blanks (s : Input) : Input :=
  if s.flags.spaced then { s with rest := skipSpaced (s.rest.length + 1) s.rest } else s

/-- Past one character and the blanks behind it. -/
def next (s : Input) : Input := (s.skip 1).blanks

end Input

/-- What stands for one place of an expression or of a set. -/
inductive Atom
  | char (c : Char)
  | set (s : CharSet)
  | look (l : Look)

/-- The set with the case of its members disregarded where the flags say so. -/
def withCase (flags : Flags) (s : CharSet) : CharSet :=
  if !flags.caseless then s else if flags.ascii then s.anyAsciiCase else s.anyCase

/-- The set or its complement. In ASCII the complement has members that are no characters. -/
def negatedIf (negated : Bool) (flags : Flags) (s : CharSet) : Option CharSet :=
  if !negated then some s else if flags.ascii then none else some s.complement

/-- The characters that end an expression's literal text or begin something else. -/
def isMeta (c : Char) : Bool := "\\.+*?()|[]\x7b\x7d^$#&-~".contains c

/-- A character that stands for itself behind a backslash. -/
def isPlainEscape (c : Char) : Bool :=
  isMeta c || (c.toNat < 128 && !c.isAlphanum && c != '<' && c != '>')

private def hexDigit? (c : Char) : Option Nat :=
  if c.isDigit then some (c.toNat - '0'.toNat)
  else if 'a' ≤ c ∧ c ≤ 'f' then some (c.toNat - 'a'.toNat + 10)
  else if 'A' ≤ c ∧ c ≤ 'F' then some (c.toNat - 'A'.toNat + 10)
  else none

private def charOf? (n : Nat) : Option Char :=
  if n.isValidChar then some (Char.ofNat n) else none

/-- Reads `count` hexadecimal digits. -/
def hexFixed : Nat → Nat → Input → Option (Nat × Input)
  | 0, n, s => some (n, s)
  | count + 1, n, s => do
    let d ← hexDigit? (← s.rest.head?)
    hexFixed count (16 * n + d) s.next

/-- Reads hexadecimal digits up to a closing brace. -/
def hexBraced : Nat → Option Nat → Input → Option (Nat × Input)
  | 0, _, _ => none
  | fuel + 1, n?, s => do
    let c ← s.rest.head?
    if c = '}' then return (← n?, s.skip 1)
    let d ← hexDigit? c
    hexBraced fuel (some (16 * n?.getD 0 + d)) s.next

/-- Reads a code point behind its letter. -/
def codePoint? (width : Nat) (s : Input) : Option (Char × Input) := do
  let (n, s) ←
    match s.rest with
    | '{' :: _ => hexBraced (s.rest.length + 1) none s.next
    | _ => hexFixed width 0 s
  return (← charOf? n, s)

/-- The set of the text in the braces of a property: a name, or a name and a value. -/
def namedProperty? (text : List Char) : Option CharSet :=
  let name := text.takeWhile fun c => c != ':' && c != '='
  match text.drop name.length with
  | [] => CharSet.property? (String.ofList text)
  | mark :: value =>
    let differs := mark == '=' && name.getLast? == some '!'
    let name := if differs then name.dropLast else name
    (CharSet.propertyValue? (String.ofList name) (String.ofList value)).map fun set =>
      if differs then set.complement else set

/-- Reads a property behind its letter: one letter, or a text in braces. -/
def property? (s : Input) : Option (CharSet × Input) :=
  match s.rest with
  | '{' :: rest =>
    let body := rest.takeWhile (· != '}')
    if body.length = rest.length then none
    else (namedProperty? body).map fun set => (set, s.skip (body.length + 2))
  | c :: _ => (CharSet.property? (String.ofList [c])).map fun set => (set, s.skip 1)
  | [] => none

/-- The ways of lying at a word that have names. -/
def wordPlaces : List (String × WordPlace) :=
  [("start", .start), ("end", .stop), ("start-half", .startHalf), ("end-half", .stopHalf)]

/-- Reads the condition of a word boundary, which may have a name in braces. -/
def wordBoundary? (s : Input) : Option (Look × Input) :=
  let plain := some (Look.word .boundary s.flags.ascii, s)
  match s.rest with
  | '{' :: _ =>
    let inner := s.next
    let isNameChar (c : Char) : Bool := c.isAlpha || c == '-'
    match inner.rest with
    | [] => none
    | c :: _ =>
      if !isNameChar c then plain
      else
        let name := inner.rest.takeWhile isNameChar
        match (inner.skip name.length).blanks.rest with
        | '}' :: rest =>
          (wordPlaces.lookup (String.ofList name)).map fun place =>
            (Look.word place s.flags.ascii, { s with rest := rest })
        | _ => none
  | _ => plain

/-- Reads what stands behind a backslash. -/
def escape? (s : Input) : Option (Atom × Input) := do
  let c ← s.rest.head?
  let after := s.skip 1
  let ascii := s.flags.ascii
  let perl (unicode : CharSet) (name : String) (negated : Bool) : Option (Atom × Input) := do
    let set := if ascii then (CharSet.asciiClasses.lookup name).getD .empty else unicode
    return (.set (← negatedIf negated s.flags set), after)
  match c with
  | 'd' => perl .digit "digit" false
  | 'D' => perl .digit "digit" true
  | 's' => perl .blank "space" false
  | 'S' => perl .blank "space" true
  | 'w' => perl .word "word" false
  | 'W' => perl .word "word" true
  | 'p' | 'P' =>
    if ascii then none
    else
      let (set, s) ← property? after.blanks
      return (.set (← negatedIf (c == 'P') s.flags (withCase s.flags set)), s)
  | 'x' => (codePoint? 2 after).map fun (d, s) => (.char d, s)
  | 'u' => (codePoint? 4 after).map fun (d, s) => (.char d, s)
  | 'U' => (codePoint? 8 after).map fun (d, s) => (.char d, s)
  | 'a' => some (.char '\x07', after)
  | 'f' => some (.char '\x0c', after)
  | 't' => some (.char '\t', after)
  | 'n' => some (.char '\n', after)
  | 'r' => some (.char '\r', after)
  | 'v' => some (.char '\x0b', after)
  | 'A' => some (.look .textStart, after)
  | 'z' => some (.look .textEnd, after)
  | 'B' => some (.look (.word .inside ascii), after)
  | '<' => some (.look (.word .start ascii), after)
  | '>' => some (.look (.word .stop ascii), after)
  | 'b' => (wordBoundary? after).map fun (l, s) => (.look l, s)
  | _ => if isPlainEscape c then some (.char c, after) else none

/-- Reads a class such as `[:alpha:]` inside a set. -/
def asciiClass? (s : Input) : Option (CharSet × Input) := do
  match s.rest with
  | '[' :: ':' :: rest =>
    let (negated, rest) := match rest with
      | '^' :: rest => (true, rest)
      | rest => (false, rest)
    let name := rest.takeWhile (· != ':')
    match rest.drop name.length with
    | ':' :: ']' :: after =>
      let set ← CharSet.asciiClasses.lookup (String.ofList name)
      return (if negated then set.complement else set, { s with rest := after })
    | _ => none
  | _ => none

/-- A set operation. -/
inductive SetOp
  | inter
  | diff
  | symmDiff

def SetOp.apply (flags : Flags) (a b : CharSet) : SetOp → CharSet
  | inter => .inter (withCase flags a) (withCase flags b)
  | diff => .diff (withCase flags a) (withCase flags b)
  | symmDiff => .symmDiff (withCase flags a) (withCase flags b)

/-- The members of a set so far, and the operation to their left. -/
structure SetSoFar where
  left : Option (CharSet × SetOp)
  members : CharSet

/-- All that was read of the set, the operation applied. -/
def SetSoFar.whole (flags : Flags) (b : SetSoFar) : CharSet :=
  match b.left with
  | some (a, op) => op.apply flags a b.members
  | none => b.members

/-- Reads one member of a set: a character, or a class behind a backslash. -/
def member? (s : Input) : Option (Atom × Input) := do
  match s.rest with
  | '\\' :: _ =>
    let (atom, s) ← escape? (s.skip 1)
    match atom with
    | .look _ => none
    | atom => return (atom, s)
  | c :: _ => return (.char c, s.skip 1)
  | [] => none

/-- The set of one member. -/
def Atom.asSet : Atom → CharSet
  | char c => .single c
  | set s => s
  | look _ => .empty

/-- Reads a member of a set, or a range between two characters. -/
def rangeOrMember? (s : Input) : Option (CharSet × Input) := do
  let (first, s) ← member? s
  let s := s.blanks
  match s.rest with
  | [] => none
  | '-' :: _ =>
    let after := s.next
    match after.rest with
    | [] => none
    | ']' :: _ => return (first.asSet, s)
    | c :: _ =>
      if c = '-' then return (first.asSet, s)
      let (last, s) ← member? after
      match first, last with
      | .char a, .char b => if a ≤ b then return (.range a b, s) else none
      | _, _ => none
  | _ => return (first.asSet, s)

/-- Reads the members of a set up to its closing bracket. Sets inside it are read by `nested`. -/
def members? (nested : Input → Option (CharSet × Input)) :
    Nat → SetSoFar → Input → Option (CharSet × Input)
  | 0, _, _ => none
  | fuel + 1, b, s =>
    let s := s.blanks
    let add (read : Option (CharSet × Input)) : Option (CharSet × Input) :=
      read.bind fun (set, s) =>
        members? nested fuel { b with members := b.members.union set } s
    let operate (op : SetOp) : Option (CharSet × Input) :=
      members? nested fuel ⟨some (b.whole s.flags, op), .empty⟩ (s.skip 2)
    match s.rest with
    | [] => none
    | ']' :: _ => some (b.whole s.flags, s.skip 1)
    | '[' :: _ => add ((asciiClass? s).or (nested (s.skip 1)))
    | '&' :: '&' :: _ => operate .inter
    | '-' :: '-' :: _ => operate .diff
    | '~' :: '~' :: _ => operate .symmDiff
    | _ => add (rangeOrMember? s)

/-- The dashes at the start of a set, which stand for themselves. -/
def leadingDashes : Nat → CharSet → Input → CharSet × Input
  | 0, set, s => (set, s)
  | fuel + 1, set, s =>
    match s.rest with
    | '-' :: _ => leadingDashes fuel (set.union (.single '-')) s.next
    | _ => (set, s)

/-- Reads a set from behind its opening bracket. Where it starts with a closing bracket, that is its
first member. -/
def bracket? : Nat → Input → Option (CharSet × Input)
  | 0, _ => none
  | fuel + 1, s => do
    let s := s.blanks
    let (negated, s) := match s.rest with
      | '^' :: _ => (true, s.next)
      | _ => (false, s)
    let (set, s') := leadingDashes s.rest.length .empty s
    let (set, s') := match s'.rest with
      | ']' :: _ =>
        if s'.rest.length = s.rest.length then (CharSet.single ']', s'.next) else (set, s')
      | _ => (set, s')
    let (set, s) ← members? (bracket? fuel) (s'.rest.length + 1) ⟨none, set⟩ s'
    return (← negatedIf negated s.flags (withCase s.flags set), s)

/-- Reads the flags of a group up to what ends them. `on` says whether flags are set or taken back,
`seen` which were named. -/
def flags? : Nat → Bool → List Char → Flags → List Char → Option (Flags × List Char)
  | 0, _, _, _, _ => none
  | fuel + 1, on, seen, f, rest =>
    match rest with
    | [] => none
    | c :: rest' =>
      if c = ':' ∨ c = ')' then
        if !on && seen.head? == some '-' then none else some (f, rest)
      else if c ∈ seen then none
      else
        let go (f : Flags) : Option (Flags × List Char) := flags? fuel on (c :: seen) f rest'
        match c with
        | '-' => flags? fuel false ('-' :: seen) f rest'
        | 'i' => go { f with caseless := on }
        | 'm' => go { f with multiline := on }
        | 's' => go { f with dotAll := on }
        | 'R' => go { f with crlf := on }
        | 'x' => go { f with spaced := on }
        | 'u' => go { f with ascii := !on }
        | 'U' => go f
        | _ => none

/-- The character may stand in the name of a group. -/
def isNameChar (first : Bool) (c : Char) : Bool :=
  let isLetter := if c.toNat < 128 then c.isAlpha else Category.holds Category.letter c
  let isNumber := if c.toNat < 128 then c.isDigit else Category.holds Category.number c
  c == '_' || isLetter || (!first && (isNumber || c == '.' || c == '[' || c == ']'))

/-- Reads the name of a group, which no group before may have. -/
def groupName? (s : Input) : Option Input :=
  let name := s.rest.takeWhile (· != '>')
  match s.rest.drop name.length, name with
  | '>' :: rest, c :: cs =>
    if isNameChar true c && cs.all (isNameChar false) && !s.names.contains name then
      some { s with rest := rest, names := name :: s.names }
    else none
  | _, _ => none

/-- Reads a group from behind its opening parenthesis. The expression inside is read by `body`;
flags that stand alone are no expression. -/
def group? (body : Input → Option (Expr × Input)) (s : Input) :
    Option (Option Expr × Input) := do
  let inside (inner : Input) : Option (Option Expr × Input) := do
    let (e, after) ← body inner
    return (some e, { after with flags := s.flags })
  let beyond : List (List Char) := [['?', '='], ['?', '!'], ['?', '<', '='], ['?', '<', '!']]
  if beyond.any fun start => start.isPrefixOf s.rest then none
  else
    match s.rest with
    | '?' :: 'P' :: '<' :: _ => inside (← groupName? (s.skip 3))
    | '?' :: '<' :: _ => inside (← groupName? (s.skip 2))
    | '?' :: rest =>
      let (flags, rest') ← flags? (rest.length + 1) true [] s.flags rest
      let s := { s with rest := rest'.drop 1, flags := flags }
      if rest'.head? = some ':' then inside s
      else if rest'.length = rest.length then none
      else return (none, s)
    | _ => inside s

/-- Past blanks of any kind. -/
def Input.anyBlanks (s : Input) : Input :=
  { s with rest := s.rest.dropWhile Blank.isBlank }

/-- The bound of counts. -/
def countBound : Nat := 4294967296

/-- Reads the digits of a count. -/
def countDigits : Nat → Option Nat → Input → Option Nat × Input
  | 0, n?, s => (n?, s)
  | fuel + 1, n?, s =>
    match s.rest with
    | c :: _ =>
      if c.isDigit then countDigits fuel (some (10 * n?.getD 0 + (c.toNat - '0'.toNat))) s.next
      else (n?, s)
    | [] => (n?, s)

/-- Reads a count. -/
def count? (s : Input) : Option (Nat × Input) := do
  let s := s.anyBlanks
  let (n?, s) := countDigits s.rest.length none s
  let n ← n?
  if n < countBound then some (n, s.anyBlanks) else none

/-- Reads how often an expression is repeated, from behind the opening brace. -/
def counts? (s : Input) : Option (Nat × Option Nat × Input) := do
  let (least, s) ← count? s.blanks
  match s.rest with
  | '}' :: _ => return (least, some least, s.skip 1)
  | ',' :: _ =>
    let s := s.next
    match s.rest with
    | '}' :: _ => return (least, none, s.skip 1)
    | _ =>
      let (most, s) ← count? s
      if s.rest.head? = some '}' && least ≤ most then return (least, some most, s.skip 1) else none
  | _ => none

/-- Past the mark that prefers short matches. -/
def Input.pastLazy (s : Input) : Input :=
  match s.rest with
  | '?' :: _ => s.skip 1
  | _ => s

/-- The expression of an atom. -/
def Atom.toExpr (flags : Flags) : Atom → Expr
  | char c =>
    if flags.ascii && c.toNat ≥ 128 then .set (.single c) else .set (withCase flags (.single c))
  | set s => .set s
  | look l => .look l

/-- The set of a dot. -/
def dotSet? (flags : Flags) : Option CharSet :=
  let newlines := if flags.crlf then CharSet.ofRanges [('\n', '\n'), ('\r', '\r')] else .single '\n'
  if flags.ascii then none
  else some (if flags.dotAll then .complement .empty else .complement newlines)

/-- Reads an atom that is no group. -/
def atom? (fuel : Nat) (s : Input) : Option (Expr × Input) := do
  match s.rest with
  | [] => none
  | '\\' :: _ =>
    let (atom, after) ← escape? (s.skip 1)
    return (atom.toExpr s.flags, after)
  | '[' :: _ =>
    let (set, after) ← bracket? fuel (s.skip 1)
    return (.set set, after)
  | '.' :: _ => return (.set (← dotSet? s.flags), s.skip 1)
  | '^' :: _ =>
    return (.look (if s.flags.multiline then .lineStart s.flags.crlf else .textStart), s.skip 1)
  | '$' :: _ =>
    return (.look (if s.flags.multiline then .lineEnd s.flags.crlf else .textEnd), s.skip 1)
  | c :: _ => return (Atom.toExpr s.flags (.char c), s.skip 1)

/-- Reads the alternatives of a group, or of the whole expression where `top` holds. Finished
alternatives and the items of the current one are given last first; an item that is only flags is
nothing that can be repeated. -/
def alternatives? (body : Input → Option (Expr × Input)) (top : Bool) :
    Nat → List Expr → List (Option Expr) → Input → Option (Expr × Input)
  | 0, _, _, _ => none
  | fuel + 1, finished, items, s =>
    let s := s.blanks
    let current : Expr := Expr.sequence (items.reverse.filterMap id)
    let whole : Expr := Expr.choice (finished.reverse ++ [current])
    let repeated (least : Nat) (most : Option Nat) (s : Input) : Option (Expr × Input) :=
      match items with
      | some e :: items =>
        alternatives? body top fuel finished (some (.repeat e least most) :: items) s.pastLazy
      | _ => none
    match s.rest with
    | [] => if top then some (whole, s) else none
    | ')' :: _ => if top then none else some (whole, s.skip 1)
    | '|' :: _ => alternatives? body top fuel (current :: finished) [] (s.skip 1)
    | '(' :: _ =>
      (group? body (s.skip 1)).bind fun (item, s) =>
        alternatives? body top fuel finished (item :: items) s
    | '?' :: _ => repeated 0 (some 1) (s.skip 1)
    | '*' :: _ => repeated 0 none (s.skip 1)
    | '+' :: _ => repeated 1 none (s.skip 1)
    | '{' :: _ =>
      match items with
      | some _ :: _ =>
        (counts? (s.skip 1)).bind fun (least, most, s) => repeated least most s.blanks
      | _ => none
    | _ =>
      (atom? s.rest.length s).bind fun (e, s) =>
        alternatives? body top fuel finished (some e :: items) s

/-- Reads an expression, with at most `depth` groups inside each other. -/
def body? : Nat → Bool → Input → Option (Expr × Input)
  | 0, _, _ => none
  | depth + 1, top, s => alternatives? (body? depth false) top (s.rest.length + 1) [] [] s

/-- Reads an expression. -/
def parse? (text : String) : Option Expr :=
  (body? (text.length + 1) true ⟨text.toList, {}, []⟩).map Prod.fst

/-- Reads an entry as an expression for whole names, in which case does not count. -/
def parseEntry? (entry : String) : Option Expr :=
  parse? ("(?i)^(?:" ++ entry ++ ")$")

end MetastoreFederation.Regex
