import MetastoreFederation.Yaml.Cursor

/-!
Texts of scalars. A quoted or plain scalar may run over several lines: a single line break in it
stands for a space, and of several the first is dropped. In a block scalar the indentation of the
first line is taken off every line.
-/

set_option autoImplicit false
set_option relaxedAutoImplicit false

namespace MetastoreFederation.Yaml

/-- How a scalar is written. -/
inductive ScalarStyle
  | plain
  | quoted
  | literal
  | folded
deriving DecidableEq, Repr

/-- The blanks and line breaks between two words of a scalar. -/
structure Gap where
  /-- The blanks, where there is no break. -/
  blanks : List Char
  /-- A line was ended, by a break or by a backslash before it. -/
  broken : Bool
  first : List Char
  further : List Char

namespace Gap

def empty : Gap := ⟨[], false, [], []⟩

/-- A gap that starts behind a line break of no meaning. -/
def afterEscape : Gap := ⟨[], true, [], []⟩

/-- The gap with a blank added: blanks around breaks do not count. -/
def addBlank (g : Gap) (c : Char) : Gap :=
  if g.broken then g else { g with blanks := g.blanks ++ [c] }

/-- The gap with a line break added. -/
def addBreak (g : Gap) (text : List Char) : Gap :=
  if g.broken then { g with further := g.further ++ text } else ⟨[], true, text, []⟩

/-- What a gap stands for. -/
def text (g : Gap) : List Char :=
  if !g.broken then g.blanks
  else if g.first = ['\n'] then (if g.further.isEmpty then [' '] else g.further)
  else g.first ++ g.further

/-- Reads blanks and breaks into the gap. With a `margin`, a tab to the left of it on a later line
is refused. -/
def read (margin : Option Nat) : Nat → Gap → Cursor → Option (Gap × Cursor)
  | 0, g, c => some (g, c)
  | fuel + 1, g, c =>
    match c.peek? with
    | none => some (g, c)
    | some d =>
      if isGap d then
        if g.broken && d == '\t' && margin.any fun m => c.column < m then none
        else read margin fuel (g.addBlank d) c.next
      else if isBreak d then
        let (text, c) := c.takeBreak
        read margin fuel (g.addBreak text) c
      else some (g, c)

end Gap

/-- The value of hexadecimal digits. -/
def hexDigits? (s : List Char) : Option Nat :=
  s.foldlM (fun n d =>
    if d.isDigit then some (16 * n + (d.toNat - '0'.toNat))
    else if 'a' ≤ d ∧ d ≤ 'f' then some (16 * n + (d.toNat - 'a'.toNat + 10))
    else if 'A' ≤ d ∧ d ≤ 'F' then some (16 * n + (d.toNat - 'A'.toNat + 10))
    else none) 0

/-- The character that is meant by a letter behind a backslash. -/
def escapeOf? : Char → Option Char
  | '0' => some '\x00'
  | 'a' => some '\x07'
  | 'b' => some '\x08'
  | 't' => some '\t'
  | '\t' => some '\t'
  | 'n' => some '\n'
  | 'v' => some '\x0b'
  | 'f' => some '\x0c'
  | 'r' => some '\r'
  | 'e' => some '\x1b'
  | ' ' => some ' '
  | '"' => some '"'
  | '/' => some '/'
  | '\\' => some '\\'
  | 'N' => some '\u0085'
  | '_' => some '\u00a0'
  | 'L' => some '\u2028'
  | 'P' => some '\u2029'
  | _ => none

/-- How many hexadecimal digits follow a letter behind a backslash. -/
def codeLength? : Char → Option Nat
  | 'x' => some 2
  | 'u' => some 4
  | 'U' => some 8
  | _ => none

/-- Reads what follows a backslash. -/
def readEscape? (c : Cursor) : Option (Char × Cursor) := do
  let letter ← c.peek?
  match codeLength? letter with
  | some length =>
    let digits := (c.rest.drop 1).take length
    let n ← hexDigits? digits
    if digits.length = length ∧ n.isValidChar then some (Char.ofNat n, c.skip (length + 1))
    else none
  | none => return (← escapeOf? letter, c.next)

/-- Reads a word of a quoted scalar. A line break behind a backslash ends it. -/
def quotedWord (single : Bool) : Nat → Cursor → Option (List Char × Bool × Cursor)
  | 0, _ => none
  | fuel + 1, c =>
    match c.rest with
    | [] => some ([], false, c)
    | d :: rest =>
      let more (d : Char) (c : Cursor) : Option (List Char × Bool × Cursor) :=
        (quotedWord single fuel c).map fun (word, escaped, c) => (d :: word, escaped, c)
      if isGap d || isBreak d then some ([], false, c)
      else if single && d == '\'' then
        if rest.head? = some '\'' then more '\'' (c.skip 2) else some ([], false, c)
      else if !single && d == '"' then some ([], false, c)
      else if !single && d == '\\' then
        if rest.head?.any isBreak then some ([], true, c.next.takeBreak.2)
        else (readEscape? c.next).bind fun (e, c) => more e c
      else more d c.next

/-- Reads a quoted scalar from behind its opening quote to behind its closing one. -/
def quotedText (single : Bool) : Nat → Cursor → Option (List Char × Cursor)
  | 0, _ => none
  | fuel + 1, c => do
    if c.atDocumentMark || c.rest.isEmpty then none
    let (word, escaped, c) ← quotedWord single (c.rest.length + 1) c
    if c.peek? = some (if single then '\'' else '"') then return (word, c.next)
    let (gap, c) ← Gap.read none c.rest.length (if escaped then .afterEscape else .empty) c
    let (text, c) ← quotedText single fuel c
    return (word ++ gap.text ++ text, c)

/-- The characters that set members of a flow collection apart. -/
def isFlowIndicator (c : Char) : Bool :=
  c == ',' || c == '[' || c == ']' || c == '{' || c == '}'

/-- Reads a word of a plain scalar. It ends before a colon with a blank behind it and, inside a flow
collection, before an indicator; there a colon may not stand right before one. -/
def plainWord (inFlow : Bool) : Nat → Cursor → Option (List Char × Cursor)
  | 0, c => some ([], c)
  | fuel + 1, c =>
    match c.rest with
    | [] => some ([], c)
    | d :: rest =>
      if isGap d || isBreak d then some ([], c)
      else if inFlow && d == ':' && rest.head?.any (fun e => isFlowIndicator e || e == '?') then
        none
      else if (d == ':' && c.blankAt 1) || (inFlow && isFlowIndicator d) then some ([], c)
      else (plainWord inFlow fuel c.next).map fun (word, c) => (d :: word, c)

/-- The rest of a plain scalar behind some gap, and whether a line was ended behind its last word.
Outside flow collections the scalar goes on only at columns from `margin` on. -/
def plainText (inFlow : Bool) (margin : Nat) :
    Nat → Gap → Cursor → Option (List Char × Bool × Cursor)
  | 0, _, _ => none
  | fuel + 1, gap, c => do
    if c.atDocumentMark || c.peek? == some '#' then return ([], gap.broken, c)
    let (word, c) ← plainWord inFlow c.rest.length c
    let gap' := if word.isEmpty then gap else .empty
    let start := if word.isEmpty then [] else gap.text ++ word
    if !c.rest.head?.any (fun d => isGap d || isBreak d) then return (start, gap'.broken, c)
    let (gap', c) ← Gap.read (some margin) c.rest.length gap' c
    if !inFlow && c.column < margin then return (start, gap'.broken, c)
    let (text, broken, c) ← plainText inFlow margin fuel gap' c
    return (start ++ text, broken, c)

/-- What happens to the line breaks at the end of a block scalar. -/
inductive Chomping
  | strip
  | clip
  | keep
deriving DecidableEq

/-- The head of a block scalar: its chomping and the width of its indentation, if given. -/
structure BlockHead where
  chomping : Chomping
  width : Option Nat

private def chomping? (c : Cursor) : Option (Chomping × Cursor) :=
  match c.peek? with
  | some '+' => some (.keep, c.next)
  | some '-' => some (.strip, c.next)
  | _ => none

private def width? (c : Cursor) : Option (Nat × Cursor) :=
  match c.peek? with
  | some d => if d.isDigit then some (d.toNat - '0'.toNat, c.next) else none
  | none => none

/-- Reads the head of a block scalar, which ends its line. -/
def blockHead? (c : Cursor) : Option (BlockHead × Cursor) :=
  let (head, c) : BlockHead × Cursor :=
    match chomping? c with
    | some (chomping, c) =>
      match width? c with
      | some (width, c) => (⟨chomping, some width⟩, c)
      | none => (⟨chomping, none⟩, c)
    | none =>
      match width? c with
      | some (width, c) =>
        match chomping? c with
        | some (chomping, c) => (⟨chomping, some width⟩, c)
        | none => (⟨.clip, some width⟩, c)
      | none => (⟨.clip, none⟩, c)
  let c := c.skipGaps
  let c := if c.peek? = some '#' then c.skipToLineEnd else c
  if head.width = some 0 || !c.atLineEnd then none else some (head, c.takeBreak.2)

/-- Passes over empty lines and the indentation of the next line. Gives the breaks and the widest
column that was seen. Without a known indentation every space is passed over. -/
def blockBreaks (indent : Option Nat) : Nat → Nat → Cursor → Option (List Char × Nat × Cursor)
  | 0, _, _ => none
  | fuel + 1, widest, c =>
    let within := (c.rest.takeWhile (· == ' ')).length
    let c := c.skip (match indent with
      | some n => min within (n - c.column)
      | none => within)
    let widest := max widest c.column
    if c.peek? = some '\t' && indent.all (c.column < ·) then none
    else if c.rest.head?.any isBreak then
      let (text, c) := c.takeBreak
      (blockBreaks indent fuel widest c).map fun (breaks, widest, c) => (text ++ breaks, widest, c)
    else some ([], widest, c)

/-- Reads the lines of a block scalar. `lead` is the break before the line, `breaks` are those of
the empty lines behind it, and `blankLead` says that the line before starts with a blank. Gives the
text without its last breaks, which follow. -/
def blockLines (literal : Bool) (indent : Nat) :
    Nat → List Char → List Char → Bool → Cursor →
      Option (List Char × List Char × List Char × Cursor)
  | 0, _, _, _, _ => none
  | fuel + 1, lead, breaks, blankLead, c =>
    if c.column ≠ indent ∨ c.rest.isEmpty then some ([], lead, breaks, c)
    else do
      let blank := c.rest.head?.any isGap
      let joint :=
        if !literal && lead == ['\n'] && !blankLead && !blank then
          (if breaks.isEmpty then [' '] else breaks)
        else lead ++ breaks
      let (line, c) := c.span fun d => !isBreak d
      let (lead, c) := c.takeBreak
      let (breaks, _, c) ← blockBreaks (some indent) (c.rest.length + 1) 0 c
      let (text, lead, breaks, c) ← blockLines literal indent fuel lead breaks blank c
      return (joint ++ line ++ text, lead, breaks, c)

/-- Reads a block scalar from behind its indicator. `parent` is the column of the collection around
it, -1 at the top. -/
def blockText (literal : Bool) (parent : Int) (c : Cursor) : Option (List Char × Cursor) := do
  let (head, c) ← blockHead? c
  let given := head.width.map fun width => (max parent 0).toNat + width
  let (breaks, widest, c) ← blockBreaks given (c.rest.length + 1) 0 c
  let indent := given.getD (max widest (max (parent + 1).toNat 1))
  let (text, lead, breaks, c) ← blockLines literal indent (c.rest.length + 1) [] breaks false c
  let tail := match head.chomping with
    | .strip => []
    | .clip => lead
    | .keep => lead ++ breaks
  return (text ++ tail, c)

end MetastoreFederation.Yaml
