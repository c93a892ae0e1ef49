import MetastoreFederation.Yaml.Token

/-!
The tokens of a text. Indentation opens and closes blocks. A token that a colon may yet turn out to
follow is kept in mind as a possible key; the colon then puts a key mark before it. Where the text
stops being YAML the tokens stop, and of those that were read only the ones are given that do not
wait for such a colon.
-/

set_option autoImplicit false
set_option relaxedAutoImplicit false

namespace MetastoreFederation.Yaml.Token

/-- A token that may be a key: whether the text is wrong if it is none, how many tokens precede it,
and its place. -/
structure PossibleKey where
  required : Bool
  number : Nat
  index : Nat
  line : Nat
  column : Nat

/-- A text that is read into tokens. -/
structure Lexer where
  cursor : Cursor
  /-- The tokens so far, the last one first. -/
  reversed : List Token
  /-- How many tokens are certain. -/
  settled : Nat
  /-- The column of the block around the cursor, -1 outside all blocks. -/
  indent : Int
  /-- The columns of the blocks around that one. -/
  outer : List Int
  /-- The possible key of the innermost flow collection, or of the block. -/
  possible : Option PossibleKey
  /-- Those of the flow collections around it, and of the block around all. -/
  enclosing : List (Option PossibleKey)
  /-- A key may start here. -/
  keyAllowed : Bool

/-- Why the tokens stop: nothing is told but the number of tokens that stand. -/
abbrev Step := Except Unit

namespace Lexer

def start (text : List Char) : Lexer :=
  ⟨Cursor.start text, [], 0, -1, [], none, [], true⟩

/-- The cursor stands in a flow collection. -/
def inFlow (s : Lexer) : Bool := !s.enclosing.isEmpty

def count (s : Lexer) : Nat := s.reversed.length

def add (s : Lexer) (t : Token) : Lexer := { s with reversed := t :: s.reversed }

/-- Puts a token in front of the token with the given number. -/
def insert (s : Lexer) (number : Nat) (t : Token) : Lexer :=
  { s with reversed := s.reversed.insertIdx (s.count - number) t }

/-- A possible key cannot be a key any more once its line is left or 1024 characters have passed. -/
def isStale (c : Cursor) (k : PossibleKey) : Bool :=
  k.line < c.line || k.index + 1024 < c.index

private def freshen (c : Cursor) (k? : Option PossibleKey) : Step (Option PossibleKey) :=
  match k? with
  | some k => if isStale c k then (if k.required then .error () else .ok none) else .ok (some k)
  | none => .ok none

/-- Forgets the possible keys that cannot be keys any more. -/
def forgetStale (s : Lexer) : Step Lexer := do
  let enclosing ← s.enclosing.mapM (freshen s.cursor)
  return { s with possible := ← freshen s.cursor s.possible, enclosing := enclosing }

/-- Settles the tokens before the first possible key. -/
def settle (s : Lexer) : Lexer :=
  let numbers := (s.possible :: s.enclosing).filterMap fun k? => k?.map PossibleKey.number
  { s with settled := numbers.foldl min s.count }

/-- Gives up the possible key of this level. -/
def dropKey (s : Lexer) : Step Lexer :=
  if s.possible.any PossibleKey.required then .error () else .ok { s with possible := none }

/-- Keeps in mind that the next token may be a key. -/
def noteKey (s : Lexer) : Step Lexer :=
  if s.keyAllowed then do
    let s ← s.dropKey
    let required := !s.inFlow && s.indent == s.cursor.column
    return { s with
      possible := some ⟨required, s.count, s.cursor.index, s.cursor.line, s.cursor.column⟩ }
  else .ok s

/-- Opens a block at a column to the right of the one around it, before the token of that number. -/
def openBlock (s : Lexer) (column : Nat) (number : Nat) (t : Token) : Lexer :=
  if s.inFlow || (column : Int) ≤ s.indent then s
  else { s.insert number t with indent := column, outer := s.indent :: s.outer }

private def closeFrom (column : Int) (s : Lexer) : List Int → Lexer
  | [] => s
  | next :: outer =>
    if s.indent > column then
      closeFrom column { s.add .blockEnd with indent := next, outer := outer } outer
    else s

/-- Closes the blocks to the right of a column. -/
def closeBlocks (s : Lexer) (column : Int) : Lexer :=
  if s.inFlow then s else closeFrom column s s.outer

/-- Passes over blanks, comments and line breaks. A tab is no blank where a key may start. -/
def skipBlanks : Nat → Lexer → Lexer
  | 0, s => s
  | fuel + 1, s =>
    let tabs := s.inFlow || !s.keyAllowed
    let c := (s.cursor.span fun d => d == ' ' || (tabs && d == '\t')).2
    let c := if c.peek? = some '#' then c.skipToLineEnd else c
    if c.rest.head?.any isBreak then
      skipBlanks fuel { s with cursor := c.takeBreak.2, keyAllowed := s.keyAllowed || !s.inFlow }
    else { s with cursor := c }

/-- Adds a token of `width` characters. -/
def mark (s : Lexer) (width : Nat) (t : Token) : Lexer :=
  { s.add t with cursor := s.cursor.skip width }

private def number? (c : Cursor) : Step (Nat × Cursor) :=
  let (digits, c) := c.span Char.isDigit
  if digits.isEmpty || digits.length > 9 then .error ()
  else .ok (digits.foldl (fun n d => 10 * n + (d.toNat - '0'.toNat)) 0, c)

private def expect (holds : Bool) : Step Unit := if holds then .ok () else .error ()

/-- The octets of escapes such as `%C3%A9`, and how many characters they take. -/
def escapedBytes : List Char → List UInt8
  | '%' :: a :: b :: rest =>
    match hexDigits? [a, b] with
    | some n => UInt8.ofNat n :: escapedBytes rest
    | none => []
  | _ => []

/-- The length of a character by its first octet. -/
def byteLength (b : UInt8) : Nat :=
  if b < 0x80 then 1 else if b < 0xE0 then 2 else if b < 0xF0 then 3 else 4

private def isTagChar (brackets : Bool) (c : Char) : Bool :=
  isNameChar c || ";/?:@&=+$.!~*'()%".contains c || (brackets && (c == ',' || c == '[' || c == ']'))

/-- Reads the characters of a tag, in which octets may be escaped. -/
def tagText (brackets : Bool) : Nat → Cursor → Step (List Char × Cursor)
  | 0, c => .ok ([], c)
  | fuel + 1, c =>
    match c.peek? with
    | none => .ok ([], c)
    | some d =>
      if !isTagChar brackets d then .ok ([], c)
      else if d == '%' then
        let bytes := escapedBytes c.rest
        let length := (bytes.head?.map byteLength).getD 1
        match String.fromUTF8? ⟨(bytes.take length).toArray⟩ with
        | some text =>
          if text.isEmpty then .error ()
          else do
            let (rest, c) ← tagText brackets fuel (c.skip (3 * length))
            return (text.toList ++ rest, c)
        | none => .error ()
      else do
        let (rest, c) ← tagText brackets fuel c.next
        return (d :: rest, c)

/-- Reads a tag handle: an exclamation mark, or a name between two. -/
def tagHandleText (c : Cursor) : Step (List Char × Cursor) := do
  expect (c.peek? == some '!')
  let (name, c) := c.next.span isNameChar
  if c.peek? = some '!' then return ('!' :: name ++ ['!'], c.next) else return ('!' :: name, c)

/-- Reads a directive from behind its percent sign. -/
def directive (c : Cursor) : Step (Token × Cursor) := do
  let (name, c) := c.span isNameChar
  expect (!name.isEmpty && c.blankAt 0)
  let (token, c) ← (do
    if name = "YAML".toList then
      let (major, c) ← number? c.skipGaps
      expect (c.peek? == some '.')
      let (minor, c) ← number? c.next
      return (Token.version major minor, c)
    else if name = "TAG".toList then
      let (handle, c) ← tagHandleText c.skipGaps
      expect (handle = ['!'] || (handle.length > 1 && handle.getLast? == some '!'))
      expect (c.rest.head?.any isGap)
      let c := c.skipGaps
      let (start, c) ← tagText true (c.rest.length + 1) c
      expect (!start.isEmpty && c.blankAt 0)
      return (Token.tagHandle (String.ofList handle) (String.ofList start), c)
    else .error () : Step (Token × Cursor))
  let c := c.skipGaps
  let c := if c.peek? = some '#' then c.skipToLineEnd else c
  expect c.atLineEnd
  return (token, c.takeBreak.2)

/-- Reads the name behind an anchor or reference sign. -/
def anchorName (c : Cursor) : Step (String × Cursor) := do
  let (name, c) := c.span isNameChar
  expect (!name.isEmpty && (c.blankAt 0 || c.rest.head?.any fun d => "?:,]\x7d%@\x60".contains d))
  return (String.ofList name, c)

/-- Reads a tag from its exclamation mark on. -/
def tagToken (inFlow : Bool) (c : Cursor) : Step (Token × Cursor) := do
  let (handle, suffix, c) ← (do
    if c.rest[1]? = some '<' then
      let c := c.skip 2
      let (text, c) ← tagText true (c.rest.length + 1) c
      expect (!text.isEmpty && c.peek? == some '>')
      return ([], text, c.next)
    else
      let (handle, c) ← tagHandleText c
      let (text, c) ← tagText false (c.rest.length + 1) c
      if handle.length > 1 && handle.getLast? == some '!' then
        expect (!text.isEmpty)
        return (handle, text, c)
      else
        let suffix := handle.tail ++ text
        return if suffix.isEmpty then ([], ['!'], c) else (['!'], suffix, c)
      : Step (List Char × List Char × Cursor))
  expect ((inFlow && c.peek? == some ',') || c.blankAt 0)
  return (.tag (String.ofList handle) (String.ofList suffix), c)

/-- Adds the scalar that was read, if one was. -/
def addScalar (s : Lexer) (style : ScalarStyle) (read : Option (List Char × Cursor)) : Step Lexer :=
  match read with
  | some (text, c) => .ok { s.add (.scalar (String.ofList text) style) with cursor := c }
  | none => .error ()

/-- Reads a plain scalar. A key may follow if it ends with its line. -/
def plainScalar (s : Lexer) : Step Lexer := do
  let s ← s.noteKey
  match plainText s.inFlow (s.indent + 1).toNat (s.cursor.rest.length + 1) .empty s.cursor with
  | some (text, broken, c) =>
    return { s.add (.scalar (String.ofList text) .plain) with cursor := c, keyAllowed := broken }
  | none => .error ()

/-- Begins an entry of a block that may start here. -/
def blockMark (s : Lexer) (block t : Token) : Step Lexer := do
  expect (s.inFlow || s.keyAllowed)
  let s ← (s.openBlock s.cursor.column s.count block).dropKey
  return s.mark 1 t

/-- A colon: what was kept in mind is a key, or else the key is empty or was marked. -/
def colon (s : Lexer) : Step Lexer := do
  match s.possible with
  | some k =>
    let s := (s.insert k.number .key).openBlock k.column k.number .blockMapping
    return { s.mark 1 .value with possible := none, keyAllowed := false }
  | none =>
    expect (s.inFlow || s.keyAllowed)
    let s := s.openBlock s.cursor.column s.count .blockMapping
    return { s.mark 1 .value with keyAllowed := !s.inFlow }

/-- A mark at the left margin, outside of all blocks. -/
def atMargin (s : Lexer) : Step Lexer := do
  let s ← (s.closeBlocks (-1)).dropKey
  return { s with keyAllowed := false }

/-- A plain scalar may start with the character. -/
def startsPlain (inFlow : Bool) (c : Cursor) (d : Char) : Bool :=
  !(isGap d || isBreak d || "-?:,[]\x7b\x7d#&*!|>'\"%@\x60".toList.contains d) ||
    (d == '-' && !c.rest[1]?.any isGap) || (!inFlow && (d == '?' || d == ':') && !c.blankAt 1)

/-- Adds the token that starts at the cursor. -/
def token (s : Lexer) : Step Lexer := do
  let c := s.cursor
  match c.peek? with
  | none =>
    let s ← s.atMargin
    return s.add .streamEnd
  | some d =>
    if c.column == 0 && d == '%' then
      let s ← s.atMargin
      let (t, c) ← directive c.next
      return { s.add t with cursor := c }
    else if c.atMark '-' then return (← s.atMargin).mark 3 .documentStart
    else if c.atMark '.' then return (← s.atMargin).mark 3 .documentEnd
    else if d == '[' || d == '{' then
      let s ← s.noteKey
      let enclosing := s.possible :: s.enclosing
      let s := { s with possible := none, enclosing, keyAllowed := true }
      return s.mark 1 (if d == '[' then .flowSequence else .flowMapping)
    else if d == ']' || d == '}' then
      let s ← s.dropKey
      let s := match s.enclosing with
        | k? :: rest => { s with possible := k?, enclosing := rest }
        | [] => s
      return { s.mark 1 (if d == ']' then .flowSequenceEnd else .flowMappingEnd) with
        keyAllowed := false }
    else if d == ',' then
      let s ← s.dropKey
      return { s.mark 1 .flowEntry with keyAllowed := true }
    else if d == '-' && c.blankAt 1 then
      return { ← s.blockMark .blockSequence .blockEntry with keyAllowed := true }
    else if d == '?' && (s.inFlow || c.blankAt 1) then
      return { ← s.blockMark .blockMapping .key with keyAllowed := !s.inFlow }
    else if d == ':' && (s.inFlow || c.blankAt 1) then s.colon
    else if d == '*' || d == '&' then
      let s ← s.noteKey
      let (name, c) ← anchorName c.next
      let t : Token := if d == '*' then .reference name else .anchor name
      return { s.add t with cursor := c, keyAllowed := false }
    else if d == '!' then
      let s ← s.noteKey
      let (t, c) ← tagToken s.inFlow c
      return { s.add t with cursor := c, keyAllowed := false }
    else if !s.inFlow && (d == '|' || d == '>') then
      let s ← s.dropKey
      let style : ScalarStyle := if d == '|' then .literal else .folded
      { s with keyAllowed := true }.addScalar style (blockText (d == '|') s.indent c.next)
    else if d == '\'' || d == '"' then
      let s ← s.noteKey
      { s with keyAllowed := false }.addScalar .quoted
        (quotedText (d == '\'') (c.rest.length + 1) c.next)
    else if startsPlain s.inFlow c d then s.plainScalar
    else .error ()

/-- Reads one more token, with the marks that go before it. -/
def advance (s : Lexer) : Step Lexer := do
  let s ← (skipBlanks (s.cursor.rest.length + 1) s).forgetStale
  (s.closeBlocks s.cursor.column).token

/-- The tokens that stand. -/
def given (s : Lexer) : List Token := s.reversed.reverse.take s.settled

/-- Reads tokens to the end of the text, or to where it stops being YAML. -/
def run : Nat → Lexer → List Token
  | 0, s => s.given
  | fuel + 1, s =>
    if s.reversed.head? = some .streamEnd then s.reversed.reverse
    else
      match s.forgetStale with
      | .error _ => s.given
      | .ok s =>
        let s := s.settle
        match s.advance with
        | .error _ => s.given
        | .ok s => run fuel s

end Lexer

/-- The tokens of a text. They end with the end of the stream exactly if the whole text is made of
tokens. A byte order mark may stand in front. -/
def scan (text : String) : List Token :=
  let chars := match text.toList with
    | '\uFEFF' :: rest => rest
    | chars => chars
  if chars.all isAllowed then (Lexer.start chars).run (chars.length + 2) else []

end MetastoreFederation.Yaml.Token
