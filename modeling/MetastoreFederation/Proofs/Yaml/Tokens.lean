import MetastoreFederation.Proofs.Yaml.Written

/-!
The tokens of written data. The tree that is built from them is the one that was written, so that
what is left to a text is to have these tokens.
-/

set_option autoImplicit false
set_option relaxedAutoImplicit false

namespace MetastoreFederation.Yaml

open Document

namespace Printer

mutual

/-- The tokens of a datum. Behind a key a sequence opens no block of its own. -/
def tokens (afterKey : Bool) : Datum → List Token
  | .null => [.scalar "null" .plain]
  | .flag true => [.scalar "true" .plain]
  | .flag false => [.scalar "false" .plain]
  | .integer n => [.scalar (toString n) .plain]
  | .decimal m places => [.scalar (decimalText m places) .plain]
  | .text s => [.scalar s (formOf s).style]
  | .items xs =>
    if xs.isEmpty then [.flowSequence, .flowSequenceEnd]
    else if afterKey then memberTokens xs
    else .blockSequence :: (memberTokens xs ++ [.blockEnd])
  | .fields es =>
    if es.isEmpty then [.flowMapping, .flowMappingEnd]
    else .blockMapping :: (entryTokens es ++ [.blockEnd])

/-- The tokens of the members of a sequence. -/
def memberTokens : List Datum → List Token
  | [] => []
  | x :: xs => .blockEntry :: (tokens false x ++ memberTokens xs)

/-- The tokens of the entries of a mapping. -/
def entryTokens : List (String × Datum) → List Token
  | [] => []
  | (name, x) :: es =>
    .key :: .scalar name (formOf name).style :: .value :: (tokens true x ++ entryTokens es)

end

/-- The token begins a node, a sequence without a block of its own only behind a key. -/
def beginsNode (afterKey : Bool) : Token → Bool
  | .scalar _ _ | .flowSequence | .flowMapping | .blockSequence | .blockMapping => true
  | .blockEntry => afterKey
  | _ => false

theorem exists_tokens_eq_cons (afterKey : Bool) (d : Datum) :
    ∃ t ts, tokens afterKey d = t :: ts ∧ beginsNode afterKey t = true := by
  match d with
  | .null | .flag true | .flag false | .integer n | .decimal m places | .text s =>
    exact ⟨_, [], rfl, rfl⟩
  | .items [] => exact ⟨.flowSequence, [.flowSequenceEnd], rfl, rfl⟩
  | .items (x :: xs) =>
    cases afterKey with
    | true => exact ⟨.blockEntry, _, rfl, rfl⟩
    | false => exact ⟨.blockSequence, _, rfl, rfl⟩
  | .fields [] => exact ⟨.flowMapping, [.flowMappingEnd], rfl, rfl⟩
  | .fields (e :: es) => exact ⟨.blockMapping, _, rfl, rfl⟩

theorem length_le_memberTokens (xs : List Datum) : xs.length ≤ (memberTokens xs).length := by
  induction xs with
  | nil => exact Nat.le_refl _
  | cons x xs ih =>
    rw [memberTokens, List.length_cons, List.length_cons, List.length_append]
    omega

theorem length_le_entryTokens (es : List (String × Datum)) :
    es.length ≤ (entryTokens es).length := by
  induction es with
  | nil => exact Nat.le_refl _
  | cons e es ih =>
    rw [entryTokens]
    simp only [List.length_cons, List.length_append]
    omega

end Printer

namespace Node

open Printer

variable {fuel : Nat} {rest : List Token} {r : Reader}

theorem read_scalar (block indentless : Bool) (text : String) (style : ScalarStyle) :
    read (fuel + 1) block indentless { r with tokens := .scalar text style :: rest } =
      (.scalar text style none, some { r with tokens := rest }) := rfl

theorem collection_bare {α : Type} (isMapping : Bool) (build : List α → Node)
    (read : Reader → Outcome (List α)) (r : Reader) :
    collection ⟨none, none⟩ isMapping build read r = (build (read r).1, (read r).2) := by
  unfold collection bindAnchor
  dsimp only
  rw [Option.map_id']

theorem read_blockSequence (indentless : Bool) :
    read (fuel + 1) true indentless { r with tokens := .blockSequence :: rest } =
      collection ⟨none, none⟩ false (.sequence · none)
        (blockEntries false (read fuel true false) (rest.length + 2)) { r with tokens := rest } :=
  rfl

theorem read_blockMapping (indentless : Bool) :
    read (fuel + 1) true indentless { r with tokens := .blockMapping :: rest } =
      collection ⟨none, none⟩ true (.mapping · none)
        (blockPairs (read fuel true true) (rest.length + 2)) { r with tokens := rest } :=
  rfl

theorem blockEntries_blockEntry {n : Nat} (indentless : Bool) (child : Reader → Outcome Node) :
    blockEntries indentless child (n + 1) { r with tokens := .blockEntry :: rest } =
      andThen (orEmpty (if indentless then [.blockEntry, .key, .value, .blockEnd]
        else [.blockEntry, .blockEnd]) child { r with tokens := rest })
          (blockEntries indentless child n) := rfl

/-- A sequence without a block of its own ends before any other token. -/
theorem blockEntries_other {n : Nat} {t : Token} (ht : t ≠ .blockEntry)
    (child : Reader → Outcome Node) :
    blockEntries true child (n + 1) { r with tokens := t :: rest } =
      ([], some { r with tokens := t :: rest }) := by
  cases t with
  | blockEntry => exact absurd rfl ht
  | _ => rfl

theorem blockPairs_key {n : Nat} (child : Reader → Outcome Node) :
    blockPairs child (n + 1) { r with tokens := .key :: rest } =
      andThen (pair [.key, .value, .blockEnd] child
        (orEmpty [.key, .value, .blockEnd] child { r with tokens := rest }))
          (blockPairs child n) := rfl

theorem pair_value (ends : List Token) (child : Reader → Outcome Node) (key : Node) :
    pair ends child (key, some { r with tokens := .value :: rest }) =
      ((key, (orEmpty ends child { r with tokens := rest }).1),
        (orEmpty ends child { r with tokens := rest }).2) := rfl

/-- Where a node has to begin one is read, if what may follow instead begins none. -/
theorem orEmpty_tokens {afterKey : Bool} {ends : List Token} (child : Reader → Outcome Node)
    (hends : ends.all (fun t => !beginsNode afterKey t) = true) (d : Datum) :
    orEmpty ends child { r with tokens := tokens afterKey d ++ rest } =
      child { r with tokens := tokens afterKey d ++ rest } := by
  obtain ⟨t, ts, htokens, hbegins⟩ := exists_tokens_eq_cons afterKey d
  have hother : t ∉ ends := by
    intro ht
    have hnone := List.all_eq_true.mp hends t ht
    rw [hbegins] at hnone
    cases hnone
  unfold orEmpty
  rw [if_neg]
  rw [htokens]
  change ¬ ends.contains t = true
  rwa [List.contains_iff_mem]

mutual

/-- A node is read from the tokens of a datum. A sequence behind a key ends where no member of it
follows. -/
theorem read_tokens (d : Datum) (afterKey : Bool) {fuel : Nat} {rest : List Token} {r : Reader}
    (hfuel : (tokens afterKey d).length < fuel)
    (hrest : afterKey = true → ∃ t ts, rest = t :: ts ∧ t ≠ .blockEntry) :
    read fuel true afterKey { r with tokens := tokens afterKey d ++ rest } =
      (ofDatum d, some { r with tokens := rest }) := by
  obtain ⟨fuel, rfl⟩ := Nat.exists_eq_add_one_of_ne_zero (Nat.ne_of_gt (Nat.zero_lt_of_lt hfuel))
  -- A part of a collection has at least one token less, so the fuel that is left is enough for it.
  match d with
  | .null => exact read_scalar true afterKey "null" .plain
  | .flag true => exact read_scalar true afterKey "true" .plain
  | .flag false => exact read_scalar true afterKey "false" .plain
  | .integer n => exact read_scalar true afterKey (toString n) .plain
  | .decimal m places => exact read_scalar true afterKey (decimalText m places) .plain
  | .text s => exact read_scalar true afterKey s (formOf s).style
  | .items [] => rfl
  | .items (x :: xs) =>
    cases afterKey with
    | true =>
      obtain ⟨t, ts, rfl, ht⟩ := hrest rfl
      have htokens : tokens true (.items (x :: xs)) = memberTokens (x :: xs) := rfl
      rw [htokens] at hfuel
      have hread : read (fuel + 1) true true
          { r with tokens := memberTokens (x :: xs) ++ t :: ts } =
            collection ⟨none, none⟩ false (.sequence · none)
              (blockEntries true (read fuel true false)
                ((memberTokens (x :: xs) ++ t :: ts).length + 1))
              { r with tokens := memberTokens (x :: xs) ++ t :: ts } := rfl
      have hlength : (x :: xs).length < (memberTokens (x :: xs) ++ t :: ts).length + 1 := by
        have hle := length_le_memberTokens (x :: xs)
        rw [List.length_append]
        omega
      rw [htokens, hread, collection_bare, blockEntries_memberTokens (x :: xs) hfuel hlength
        fun m => blockEntries_other ht _]
      rfl
    | false =>
      have htokens : tokens false (.items (x :: xs)) =
          .blockSequence :: (memberTokens (x :: xs) ++ [.blockEnd]) := rfl
      rw [htokens, List.length_cons, List.length_append, List.length_singleton] at hfuel
      have hlength : (x :: xs).length <
          (memberTokens (x :: xs) ++ ([Token.blockEnd] ++ rest)).length + 2 := by
        have hle := length_le_memberTokens (x :: xs)
        rw [List.length_append]
        omega
      have hend : ∀ m, blockEntries false (read fuel true false) (m + 1)
          { r with tokens := [.blockEnd] ++ rest } = ([], some { r with tokens := rest }) :=
        fun _ => rfl
      rw [htokens, List.cons_append, read_blockSequence, collection_bare, List.append_assoc,
        blockEntries_memberTokens (x :: xs) (by omega) hlength hend]
      rfl
  | .fields [] => rfl
  | .fields (e :: es) =>
    have htokens : tokens afterKey (.fields (e :: es)) =
        .blockMapping :: (entryTokens (e :: es) ++ [.blockEnd]) := rfl
    rw [htokens, List.length_cons, List.length_append, List.length_singleton] at hfuel
    rw [htokens, List.cons_append, read_blockMapping, collection_bare, List.append_assoc,
      List.singleton_append, blockPairs_entryTokens (e :: es) (by omega)]
    · rfl
    · have hlength := length_le_entryTokens (e :: es)
      rw [List.length_append]
      omega

theorem blockEntries_memberTokens (xs : List Datum) {fuel : Nat} {rest : List Token} {r : Reader}
    {indentless : Bool} {n : Nat} {after : Reader}
    (hfuel : (memberTokens xs).length < fuel + 1) (hn : xs.length < n)
    (hend : ∀ m, blockEntries indentless (read fuel true false) (m + 1)
      { r with tokens := rest } = ([], some after)) :
    blockEntries indentless (read fuel true false) n
      { r with tokens := memberTokens xs ++ rest } = (ofMembers xs, some after) := by
  obtain ⟨n, rfl⟩ := Nat.exists_eq_add_one_of_ne_zero (Nat.ne_of_gt (Nat.zero_lt_of_lt hn))
  match xs with
  | [] => exact hend n
  | x :: xs =>
    rw [memberTokens, List.length_cons, List.length_append] at hfuel
    have hends : (if indentless then [.blockEntry, .key, .value, .blockEnd]
        else [.blockEntry, .blockEnd] : List Token).all (fun t => !beginsNode false t) = true := by
      cases indentless <;> rfl
    rw [memberTokens, List.cons_append, List.append_assoc, blockEntries_blockEntry,
      orEmpty_tokens _ hends, read_tokens x false (by omega) nofun]
    unfold andThen
    dsimp only
    rw [blockEntries_memberTokens xs (by omega) (Nat.lt_of_succ_lt_succ hn) hend]
    rfl

theorem blockPairs_entryTokens (es : List (String × Datum)) {fuel : Nat} {rest : List Token}
    {r : Reader} {n : Nat} (hfuel : (entryTokens es).length < fuel + 1) (hn : es.length < n) :
    blockPairs (read fuel true true) n
      { r with tokens := entryTokens es ++ .blockEnd :: rest } =
        (ofEntries es, some { r with tokens := rest }) := by
  obtain ⟨n, rfl⟩ := Nat.exists_eq_add_one_of_ne_zero (Nat.ne_of_gt (Nat.zero_lt_of_lt hn))
  match es with
  | [] => rfl
  | (name, x) :: es =>
    rw [entryTokens] at hfuel
    simp only [List.length_cons, List.length_append] at hfuel
    obtain ⟨fuel, rfl⟩ := Nat.exists_eq_add_one_of_ne_zero (n := fuel) (by omega)
    rw [entryTokens]
    simp only [List.cons_append, List.append_assoc]
    rw [blockPairs_key]
    have hkey : orEmpty [.key, .value, .blockEnd] (read (fuel + 1) true true)
        { r with tokens := .scalar name (formOf name).style :: .value ::
          (tokens true x ++ (entryTokens es ++ .blockEnd :: rest)) } =
        (.scalar name (formOf name).style none, some { r with tokens := .value ::
          (tokens true x ++ (entryTokens es ++ .blockEnd :: rest)) }) := rfl
    have hvalue : pair [.key, .value, .blockEnd] (read (fuel + 1) true true)
        (.scalar name (formOf name).style none, some { r with tokens := .value ::
          (tokens true x ++ (entryTokens es ++ .blockEnd :: rest)) }) =
        ((.scalar name (formOf name).style none, ofDatum x),
          some { r with tokens := entryTokens es ++ .blockEnd :: rest }) := by
      have hbehind : ∃ t ts, entryTokens es ++ .blockEnd :: rest = t :: ts ∧ t ≠ .blockEntry := by
        cases es with
        | nil => exact ⟨.blockEnd, rest, rfl, nofun⟩
        | cons e es => exact ⟨.key, _, rfl, nofun⟩
      rw [pair_value, orEmpty_tokens _ rfl, read_tokens x true (by omega) fun _ => hbehind]
    rw [hkey, hvalue]
    unfold andThen
    dsimp only
    rw [blockPairs_entryTokens es (by omega) (Nat.lt_of_succ_lt_succ hn)]
    rfl

end

end Node

/-- Tokens that begin a node are those of a document without directives. -/
theorem Tree.ofText_of_scan {text : String} {t : Token} {ts : List Token}
    (hscan : Token.scan text = t :: ts) (ht : Printer.beginsNode false t = true) :
    Tree.ofText text = Tree.content [] (t :: ts) := by
  unfold Tree.ofText
  rw [hscan]
  cases t with
  | scalar | flowSequence | flowMapping | blockSequence | blockMapping => rfl
  | _ => cases ht

/-- The text of a document is read as what was written, if it has the tokens of what was written. -/
theorem Printer.reproduced_of_scan {d : Datum}
    (hscan : Token.scan (Printer.render d) = Printer.tokens false d ++ [.streamEnd]) :
    Printer.Reproduced d := by
  obtain ⟨t, ts, htokens, ht⟩ := Printer.exists_tokens_eq_cons false d
  have hscan' : Token.scan (Printer.render d) = t :: (ts ++ [.streamEnd]) := by
    rw [hscan, htokens, List.cons_append]
  have hlength : (Printer.tokens false d).length <
      (Printer.tokens false d ++ [Token.streamEnd]).length + 1 := by
    rw [List.length_append]
    omega
  unfold Printer.Reproduced
  rw [Tree.ofText_of_scan hscan' ht, ← List.cons_append, ← htokens]
  unfold Tree.content
  dsimp only
  rw [Node.read_tokens (r := ⟨[], [], [] ++ Tree.defaultHandles⟩) d false hlength nofun]
  rfl

end MetastoreFederation.Yaml
