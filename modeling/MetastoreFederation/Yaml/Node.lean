import MetastoreFederation.Yaml.Token.Lexer

/-!
Documents as trees. A tree is built from the tokens of its text; where they stop fitting together
the tree is broken off, and what was complete before stays.
-/

set_option autoImplicit false
set_option relaxedAutoImplicit false

namespace MetastoreFederation.Yaml

/-- The tree of a document. -/
inductive Node
  | scalar (text : String) (style : ScalarStyle) (tag : Option String)
  | sequence (members : List Node) (tag : Option String)
  | mapping (entries : List (Node × Node)) (tag : Option String)
  /-- A reference to a collection from inside that collection. -/
  | cycle (isMapping : Bool)
  /-- The place where the text stops being a document. -/
  | broken
deriving Inhabited

namespace Node

/-- A node of which nothing is written. -/
def empty : Node := scalar "" .plain none

/-- Tokens that are read into nodes, the anchored nodes so far, and the tag handles that were
declared. -/
structure Reader where
  tokens : List Token
  anchors : List (String × Node)
  handles : List (String × String)

/-- What was read, and how to go on unless the text breaks off there. -/
abbrev Outcome (α : Type) := α × Option Reader

namespace Reader

/-- Past one token. -/
def next (r : Reader) : Reader := { r with tokens := r.tokens.tail }

def peek? (r : Reader) : Option Token := r.tokens.head?

/-- The next token is one of the given ones. -/
def at? (r : Reader) (ts : List Token) : Bool := r.peek?.any fun t => ts.contains t

/-- The full tag that is meant by a handle and a suffix. -/
def resolveTag? (r : Reader) (handle suffix : String) : Option String :=
  if handle.isEmpty then some suffix else (r.handles.lookup handle).map (· ++ suffix)

end Reader

/-- Nothing was read. -/
def stop : Outcome Node := (.broken, none)

/-- The node at the reader, or an empty one if the next token belongs to the collection around. -/
def orEmpty (ends : List Token) (child : Reader → Outcome Node) (r : Reader) : Outcome Node :=
  if r.at? ends then (.empty, some r) else child r

/-- Goes on with the members of a collection behind one of them. -/
def andThen {α : Type} (first : Outcome α) (more : Reader → Outcome (List α)) : Outcome (List α) :=
  match first with
  | (x, some r) =>
    let (xs, rest) := more r
    (x :: xs, rest)
  | (x, none) => ([x], none)

/-- The entries of a block sequence. One without a block of its own ends before any other token. -/
def blockEntries (indentless : Bool) (child : Reader → Outcome Node) :
    Nat → Reader → Outcome (List Node)
  | 0, _ => ([.broken], none)
  | fuel + 1, r =>
    match r.peek? with
    | some .blockEntry =>
      let ends : List Token :=
        if indentless then [.blockEntry, .key, .value, .blockEnd] else [.blockEntry, .blockEnd]
      andThen (orEmpty ends child r.next) (blockEntries indentless child fuel)
    | some .blockEnd => ([], some (if indentless then r else r.next))
    | some _ => if indentless then ([], some r) else ([.broken], none)
    | none => ([.broken], none)

/-- The value behind a key, if a value mark stands there. -/
def valueAfter (ends : List Token) (child : Reader → Outcome Node) (key : Node) (r : Reader) :
    Outcome (Node × Node) :=
  let (value, rest) :=
    match r.peek? with
    | some .value => orEmpty ends child r.next
    | some _ => (.empty, some r)
    | none => stop
  ((key, value), rest)

/-- A key and its value. -/
def pair (ends : List Token) (child : Reader → Outcome Node) (key : Outcome Node) :
    Outcome (Node × Node) :=
  match key with
  | (key, some r) => valueAfter ends child key r
  | (key, none) => ((key, .broken), none)

/-- The entries of a block mapping. -/
def blockPairs (child : Reader → Outcome Node) : Nat → Reader → Outcome (List (Node × Node))
  | 0, _ => ([(.broken, .broken)], none)
  | fuel + 1, r =>
    let ends : List Token := [.key, .value, .blockEnd]
    match r.peek? with
    | some .key => andThen (pair ends child (orEmpty ends child r.next)) (blockPairs child fuel)
    | some .blockEnd => ([], some r.next)
    | _ => ([(.broken, .broken)], none)

/-- Past the comma that sets a member of a flow collection apart from the one before it. -/
def pastComma (first : Bool) (r : Reader) : Option Reader :=
  if first then some r else if r.at? [.flowEntry] then some r.next else none

/-- A pair that stands in a flow sequence by itself, from behind its key mark. -/
def lonePair (child : Reader → Outcome Node) (r : Reader) : Outcome Node :=
  let ends : List Token := [.flowEntry, .flowSequenceEnd]
  let key := if r.at? (.value :: ends) then (.empty, some r.next) else child r
  let (entry, rest) := pair ends child key
  (.mapping [entry] none, rest)

/-- The members of a flow sequence. -/
def flowItems (child : Reader → Outcome Node) : Nat → Bool → Reader → Outcome (List Node)
  | 0, _, _ => ([.broken], none)
  | fuel + 1, first, r =>
    if r.at? [.flowSequenceEnd] then ([], some r.next)
    else
      match pastComma first r with
      | none => ([.broken], none)
      | some r =>
        match r.peek? with
        | some .key => andThen (lonePair child r.next) (flowItems child fuel false)
        | some .flowSequenceEnd => ([], some r.next)
        | _ => andThen (child r) (flowItems child fuel false)

/-- A key without a value mark behind it. -/
def withoutValue (key : Outcome Node) : Outcome (Node × Node) :=
  match key with
  | (key, some r) => if r.tokens.isEmpty then ((key, .broken), none) else ((key, .empty), some r)
  | (key, none) => ((key, .broken), none)

/-- The entries of a flow mapping. -/
def flowPairs (child : Reader → Outcome Node) :
    Nat → Bool → Reader → Outcome (List (Node × Node))
  | 0, _, _ => ([(.broken, .broken)], none)
  | fuel + 1, first, r =>
    if r.at? [.flowMappingEnd] then ([], some r.next)
    else
      match pastComma first r with
      | none => ([(.broken, .broken)], none)
      | some r =>
        let ends : List Token := [.flowEntry, .flowMappingEnd]
        match r.peek? with
        | some .key =>
          andThen (pair ends child (orEmpty (.value :: ends) child r.next))
            (flowPairs child fuel false)
        | some .flowMappingEnd => ([], some r.next)
        | _ =>
          andThen (withoutValue (child r)) (flowPairs child fuel false)

/-- What stands before a node: an anchor and a tag, in either order. -/
structure Properties where
  anchor : Option String
  tag : Option String

/-- Reads the properties of a node. -/
def properties? (r : Reader) : Option (Properties × Reader) :=
  let tagged (anchor : Option String) (r : Reader) : Option (Properties × Reader) :=
    match r.peek? with
    | some (.tag handle suffix) =>
      (r.resolveTag? handle suffix).map fun tag => (⟨anchor, some tag⟩, r.next)
    | _ => some (⟨anchor, none⟩, r)
  match r.peek? with
  | some (.anchor name) => tagged (some name) r.next
  | some (.tag _ _) =>
    (tagged none r).map fun (p, r) =>
      match r.peek? with
      | some (.anchor name) => ({ p with anchor := some name }, r.next)
      | _ => (p, r)
  | _ => some (⟨none, none⟩, r)

/-- Enters an anchored node. Of several nodes with one anchor the one that starts last counts. -/
def bindAnchor (name? : Option String) (node : Node) (r : Reader) : Reader :=
  match name? with
  | some name => { r with anchors := (name, node) :: r.anchors }
  | none => r

/-- Reads the content of an anchored collection, inside which its anchor leads to itself. -/
def collection {α : Type} (p : Properties) (isMapping : Bool) (build : List α → Node)
    (read : Reader → Outcome (List α)) (r : Reader) : Outcome Node :=
  let depth := r.anchors.length
  let (xs, rest) := read (bindAnchor p.anchor (.cycle isMapping) r)
  let node := build xs
  let settle (r : Reader) : Reader :=
    match p.anchor with
    | some name => { r with anchors := r.anchors.set (r.anchors.length - 1 - depth) (name, node) }
    | none => r
  (node, rest.map settle)

/-- Reads a node. Block collections may stand only in block context, and a sequence that is the
value of a block mapping need not be indented. -/
def read : Nat → (block indentless : Bool) → Reader → Outcome Node
  | 0, _, _, _ => stop
  | fuel + 1, block, indentless, r =>
    let size := r.tokens.length + 1
    let inBlock := read fuel true false
    let inFlow := read fuel false false
    match r.peek? with
    | some (.reference name) =>
      match r.anchors.lookup name with
      | some node => (node, some r.next)
      | none => stop
    | _ =>
      match properties? r with
      | none => stop
      | some (p, r) =>
        match r.peek? with
        | some .blockEntry =>
          if indentless then
            collection p false (.sequence · p.tag) (blockEntries true inBlock size) r
          else if p.anchor.isSome || p.tag.isSome then
            let node := Node.scalar "" .plain p.tag
            (node, some (bindAnchor p.anchor node r))
          else stop
        | some (.scalar text style) =>
          let node := Node.scalar text style (if p.tag = some "!" then none else p.tag)
          (node, some (bindAnchor p.anchor node r.next))
        | some .flowSequence =>
          collection p false (.sequence · p.tag) (flowItems inFlow size true) r.next
        | some .flowMapping =>
          collection p true (.mapping · p.tag) (flowPairs inFlow size true) r.next
        | some token =>
          if block && token == .blockSequence then
            collection p false (.sequence · p.tag) (blockEntries false inBlock size) r.next
          else if block && token == .blockMapping then
            collection p true (.mapping · p.tag) (blockPairs (read fuel true true) size) r.next
          else if p.anchor.isSome || p.tag.isSome then
            let node := Node.scalar "" .plain p.tag
            (node, some (bindAnchor p.anchor node r))
          else stop
        | none => stop

end Node

/-- The first document of a text, and whether the text ends in order behind it. -/
structure Tree where
  root : Node
  sound : Bool

namespace Tree

/-- The tag handles that need no declaration. -/
def defaultHandles : List (String × String) :=
  [("!", "!"), ("!!", "tag:yaml.org,2002:")]

/-- Directives: the declared handles, or nothing if they contradict each other or ask for another
version of the format. -/
def directives? : List Token → Bool → List (String × String) →
    Option (List (String × String) × List Token)
  | .version major minor :: rest, versioned, handles =>
    if versioned || major != 1 || (minor != 1 && minor != 2) then none
    else directives? rest true handles
  | .tagHandle handle start :: rest, versioned, handles =>
    if (handles.lookup handle).isSome then none
    else directives? rest versioned ((handle, start) :: handles)
  | rest, _, handles => some (handles, rest)

/-- Nothing but ends of documents is left. -/
def endsIn : List Token → Bool
  | [.streamEnd] => true
  | .documentEnd :: rest => endsIn rest
  | _ => false

/-- Reads the document whose content starts at the tokens. -/
def content (handles : List (String × String)) (tokens : List Token) : Tree :=
  let r : Node.Reader := ⟨tokens, [], handles ++ defaultHandles⟩
  let (root, rest) := Node.read (tokens.length + 1) true false r
  ⟨root, rest.any fun r => endsIn r.tokens⟩

/-- The token cannot be part of a document's content. -/
def isOutside : Token → Bool
  | .version _ _ | .tagHandle _ _ | .documentStart | .documentEnd | .streamEnd => true
  | _ => false

/-- The document behind its start mark. -/
def afterStart (handles : List (String × String)) (tokens : List Token) : Tree :=
  if tokens.head?.any isOutside then ⟨.empty, endsIn tokens⟩ else content handles tokens

/-- The first document of a text. A text without any document has an empty one, and directives need
the mark of a document's start behind them. -/
def ofText (text : String) : Tree :=
  match Token.scan text with
  | [.streamEnd] => ⟨.empty, true⟩
  | tokens =>
    match tokens.head? with
    | some (.version _ _) | some (.tagHandle _ _) | some .documentStart =>
      match directives? tokens false [] with
      | some (handles, .documentStart :: rest) => afterStart handles rest
      | _ => ⟨.broken, false⟩
    | _ => content [] tokens

end Tree

end MetastoreFederation.Yaml
