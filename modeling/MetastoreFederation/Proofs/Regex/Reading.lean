import Mathlib.Data.List.Basic
import MetastoreFederation.Regex.Escape

/-!
How the text of an expression is read. Alternatives are read step by step, up to where the group or
the text ends. What each part of a text is read as is said with any text behind it, so that parts in
a row are read one after another, and so is what stands in a group.
-/

set_option autoImplicit false
set_option relaxedAutoImplicit false

namespace MetastoreFederation.Regex

theorem Input.blanks_of_cons {s : Input} {c : Char} {rest : List Char} (hrest : s.rest = c :: rest)
    (hblank : Text.Blank.isBlank c = false) (hcomment : c ≠ '#') : s.blanks = s := by
  unfold blanks skipSpaced
  rw [hrest, List.dropWhile_cons_of_neg (by simp [hblank])]
  split_ifs
  · split
    case h_1 comment heq => exact absurd (List.cons.inj heq).1 hcomment
    case h_2 => rw [← hrest]
  · rfl

/-- The alternatives so far: those that are finished, and the items of the current one, both last
first. -/
structure Branches where
  finished : List Expr
  items : List (Option Expr)

namespace Branches

/-- The expression of the current alternative. -/
def current (b : Branches) : Expr := Expr.sequence (b.items.reverse.filterMap id)

/-- The expression of all alternatives. -/
def whole (b : Branches) : Expr := Expr.choice (b.finished.reverse ++ [b.current])

/-- The alternatives with one more item. -/
def add (b : Branches) (item : Option Expr) : Branches := { b with items := item :: b.items }

/-- The alternatives with the last item repeated, if it is an expression. -/
def repeated? (b : Branches) (least : Nat) (most : Option Nat) : Option Branches :=
  match b.items with
  | some e :: items => some { b with items := some (.repeat e least most) :: items }
  | _ => none

end Branches

/-- What is read where a group or the text ends: at a closing parenthesis, or where nothing is
left. -/
def ends? (top : Bool) (e : Expr) (s : Input) : Option (Expr × Input) :=
  match s.rest with
  | [] => if top then some (e, s) else none
  | _ :: _ => if top then none else some (e, s.skip 1)

/-- At the parenthesis in front of the input. -/
def Input.atClose (s : Input) : Input := { s with rest := ')' :: s.rest }

section Steps

variable (body : Input → Option (Expr × Input))

/-- Reads alternatives that are told as such. -/
def read? (top : Bool) (fuel : Nat) (b : Branches) (s : Input) : Option (Expr × Input) :=
  alternatives? body top fuel b.finished b.items s

/-- One step through the alternatives of a group. -/
def branchStep? (b : Branches) (s : Input) : Option (Branches × Input) :=
  match s.rest with
  | '|' :: _ => some (⟨b.current :: b.finished, []⟩, s.skip 1)
  | '(' :: _ => (group? body (s.skip 1)).map fun read => (b.add read.1, read.2)
  | '?' :: _ => (b.repeated? 0 (some 1)).map fun c => (c, (s.skip 1).pastLazy)
  | '*' :: _ => (b.repeated? 0 none).map fun c => (c, (s.skip 1).pastLazy)
  | '+' :: _ => (b.repeated? 1 none).map fun c => (c, (s.skip 1).pastLazy)
  | '\x7b' :: _ =>
    (counts? (s.skip 1)).bind fun read =>
      (b.repeated? read.1 read.2.1).map fun c => (c, read.2.2.blanks.pastLazy)
  | [] => none
  | ')' :: _ => none
  | _ => (atom? s.rest.length s).map fun read => (b.add (some read.1), read.2)

variable {body} {top : Bool} {fuel : Nat} {b : Branches} {s : Input} {rest : List Char}

/-- What is read where nothing but the end of the group or of the text can follow. -/
theorem read?_ends (hends : ∀ c ∈ s.blanks.rest.head?, c = ')') :
    read? body top (fuel + 1) b s = ends? top b.whole s.blanks := by
  unfold read? alternatives? ends?
  cases hrest : s.blanks.rest with
  | nil => simp [hrest, Branches.whole, Branches.current]
  | cons c rest =>
    obtain rfl := hends c (by simp [hrest])
    simp [hrest, Branches.whole, Branches.current]

theorem read?_step {c : Char} (hrest : s.blanks.rest = c :: rest) (hclose : c ≠ ')') :
    read? body top (fuel + 1) b s =
      (branchStep? body b s.blanks).bind fun read => read? body top fuel read.1 read.2 := by
  unfold read?
  conv_lhs => unfold alternatives?
  unfold branchStep?
  dsimp only
  split
  case h_1 hnil => exact absurd (hrest.symm.trans hnil) (List.cons_ne_nil _ _)
  case h_2 heq => exact absurd (List.cons.inj (hrest.symm.trans heq)).1 hclose
  case h_3 rest hrest =>
    simp only [hrest]
    rfl
  case h_4 rest hrest =>
    simp only [hrest, Option.bind_map]
    rfl
  case h_5 rest hrest | h_6 rest hrest | h_7 rest hrest =>
    obtain ⟨finished, _ | ⟨_ | e, items⟩⟩ := b <;>
    · simp only [hrest]
      rfl
  case h_8 rest hrest =>
    simp only [hrest]
    obtain ⟨finished, _ | ⟨_ | e, items⟩⟩ := b
    · cases counts? (s.blanks.skip 1) <;> rfl
    · cases counts? (s.blanks.skip 1) <;> rfl
    · dsimp only
      rw [Option.bind_assoc]
      rfl
  case h_9 =>
    split
    case h_9 =>
      rw [Option.bind_map]
      rfl
    all_goals simp_all

end Steps

section Groups

variable {body : Input → Option (Expr × Input)} {top : Bool} {fuel : Nat} {b : Branches} {s : Input}
  {rest inner : List Char} {flags : Flags} {names : List (List Char)}

theorem read?_group (hrest : s.rest = '(' :: rest) :
    read? body top (fuel + 1) b s =
      (group? body (s.skip 1)).bind fun read => read? body top fuel (b.add read.1) read.2 := by
  have hblanks := Input.blanks_of_cons hrest (by decide) (by decide)
  rw [read?_step (by rw [hblanks, hrest]) (by decide), hblanks]
  simp only [branchStep?, hrest, Option.bind_map]
  rfl

/-- A group without a name is read as the expression inside, with the flags from in front of it. -/
theorem read?_plainGroup :
    read? body top (fuel + 1) b ⟨'(' :: '?' :: ':' :: inner, flags, names⟩ =
      (body ⟨inner, flags, names⟩).bind fun read =>
        read? body top fuel (b.add (some read.1)) { read.2 with flags := flags } := by
  have hgroup : group? body ⟨'?' :: ':' :: inner, flags, names⟩ =
      (body ⟨inner, flags, names⟩).bind fun read =>
        some (some read.1, { read.2 with flags := flags }) := by
    simp [group?, flags?]
  rw [read?_group rfl]
  change (group? body ⟨'?' :: ':' :: inner, flags, names⟩).bind _ = _
  rw [hgroup, Option.bind_assoc]
  rfl

theorem parse?_eq {text : String} (htext : text.toList = rest) :
    parse? text =
      (read? (body? rest.length false) true (rest.length + 1) ⟨[], []⟩ ⟨rest, {}, []⟩).map
        Prod.fst := by
  unfold parse?
  rw [← String.length_toList, htext]
  rfl

end Groups

/-- Blanks count, all characters are meant, and a text starts and ends only once. -/
structure Flags.Plain (f : Flags) : Prop where
  multiline : f.multiline = false
  spaced : f.spaced = false
  ascii : f.ascii = false

/-- Wherever it stands, the text is read as the expressions. A question mark behind it could change
the last of them. -/
def Reads (flags : Flags) (text : List Char) (es : List Expr) : Prop :=
  text.head? ≠ some '?' ∧ ∃ steps ≤ text.length, ∀ body top fuel finished items rest names,
    rest.head? ≠ some '?' →
      alternatives? body top (steps + fuel) finished items ⟨text ++ rest, flags, names⟩ =
        alternatives? body top fuel finished ((es.map some).reverse ++ items) ⟨rest, flags, names⟩

variable {flags : Flags} {text rest : List Char} {es : List Expr} {names : List (List Char)}

theorem reads_nil : Reads flags [] [] :=
  ⟨nofun, 0, Nat.le_refl 0, fun body top fuel finished items rest names _ => by
    rw [Nat.zero_add]
    rfl⟩

theorem head?_append_ne (h : text.head? ≠ some '?') (hrest : rest.head? ≠ some '?') :
    (text ++ rest).head? ≠ some '?' := by
  cases text with
  | nil => exact hrest
  | cons c text => exact h

theorem Reads.append {text' : List Char} {es' : List Expr} (h : Reads flags text es)
    (h' : Reads flags text' es') : Reads flags (text ++ text') (es ++ es') := by
  obtain ⟨hhead, steps, hsteps, hread⟩ := h
  obtain ⟨hhead', steps', hsteps', hread'⟩ := h'
  refine ⟨head?_append_ne hhead hhead', steps + steps', ?_,
    fun body top fuel finished items rest names hrest => ?_⟩
  · rw [List.length_append]
    exact Nat.add_le_add hsteps hsteps'
  · rw [List.append_assoc, Nat.add_assoc,
      hread body top _ finished items _ names (head?_append_ne hhead' hrest),
      hread' body top fuel finished _ rest names hrest, List.map_append, List.reverse_append,
      List.append_assoc]

/-- What each character of a text is written and read as makes up the whole. -/
theorem reads_flatMap {s : List Char} {write : Char → List Char} {mean : Char → Expr}
    (h : ∀ c ∈ s, Reads flags (write c) [mean c]) :
    Reads flags (s.flatMap write) (s.map mean) := by
  induction s with
  | nil => exact reads_nil
  | cons c s ih =>
    obtain ⟨hc, h⟩ := List.forall_mem_cons.mp h
    exact hc.append (ih h)

theorem isMeta_iff {c : Char} :
    isMeta c = true ↔ c ∈ ['\\', '.', '+', '*', '?', '(', ')', '|', '[', ']', '\x7b', '\x7d', '^',
      '$', '#', '&', '-', '~'] := by
  unfold isMeta
  simp

theorem escape?_meta {c : Char} (h : isMeta c = true) (flags : Flags) :
    escape? ⟨c :: rest, flags, names⟩ = some (.char c, ⟨rest, flags, names⟩) := by
  have hplain : isPlainEscape c = true := by
    unfold isPlainEscape
    rw [h, Bool.true_or]
  have hmem := isMeta_iff.mp h
  simp only [List.mem_cons, List.not_mem_nil, or_false] at hmem
  rcases hmem with rfl | rfl | rfl | rfl | rfl | rfl | rfl | rfl | rfl | rfl | rfl | rfl | rfl |
    rfl | rfl | rfl | rfl | rfl <;> exact if_pos hplain

/-- An escaped character is read as the character, in any case if case does not count. -/
theorem reads_escapeChar (hflags : flags.Plain) (c : Char) :
    Reads flags (escapeChar c) [.set (withCase flags (.single c))] := by
  obtain ⟨caseless, multiline, dotAll, crlf, spaced, ascii⟩ := flags
  obtain ⟨rfl, rfl, rfl⟩ := hflags
  unfold escapeChar
  cases hmeta : isMeta c with
  | true =>
    refine ⟨nofun, 1, Nat.le_succ 1, fun body top fuel finished items rest names _ => ?_⟩
    rw [Nat.add_comm 1 fuel]
    let input (rest : List Char) : Input :=
      ⟨rest, ⟨caseless, false, dotAll, crlf, false, false⟩, names⟩
    have hatom : atom? ('\\' :: c :: rest).length (input ('\\' :: c :: rest)) =
        some (.set (withCase (input []).flags (.single c)), input rest) := by
      unfold atom?
      dsimp only
      change (escape? (input (c :: rest)) >>= fun read =>
        some (read.1.toExpr (input []).flags, read.2)) = _
      rw [escape?_meta hmeta]
      rfl
    change (atom? ('\\' :: c :: rest).length (input ('\\' :: c :: rest))).bind _ = _
    rw [hatom]
    rfl
  | false =>
    have hc := mt isMeta_iff.mpr (Bool.eq_false_iff.mp hmeta)
    simp only [List.mem_cons, List.not_mem_nil, or_false, not_or] at hc
    refine ⟨fun h => hc.2.2.2.2.1 (Option.some.inj h), 1, Nat.le_refl 1,
      fun body top fuel finished items rest names _ => ?_⟩
    rw [Nat.add_comm 1 fuel]
    let input (rest : List Char) : Input :=
      ⟨rest, ⟨caseless, false, dotAll, crlf, false, false⟩, names⟩
    have hatom : atom? (c :: rest).length (input (c :: rest)) =
        some (.set (withCase (input []).flags (.single c)), input rest) := by
      unfold atom?
      dsimp only
      split <;> simp_all [Atom.toExpr, withCase, Input.skip, input]
    change alternatives? body top (fuel + 1) finished items (input (c :: rest)) = _
    conv_lhs => unfold alternatives?
    have hblanks : (input (c :: rest)).blanks = input (c :: rest) := rfl
    rw [hblanks]
    dsimp only
    -- Each branch but the last is for a character that means something.
    split
    case h_9 =>
      rw [hatom]
      rfl
    all_goals simp_all [input]

/-- What stands in a group is read up to its end. -/
theorem body?_of_reads (hflags : flags.Plain) (h : Reads flags text es) (depth : Nat) :
    body? (depth + 1) false ⟨text ++ ')' :: rest, flags, names⟩ =
      some (.sequence es, ⟨rest, flags, names⟩) := by
  obtain ⟨-, steps, hsteps, hread⟩ := h
  obtain ⟨caseless, multiline, dotAll, crlf, spaced, ascii⟩ := flags
  obtain ⟨rfl, rfl, rfl⟩ := hflags
  obtain ⟨extra, hextra⟩ := Nat.exists_eq_add_of_le hsteps
  have hfuel : (text ++ ')' :: rest).length + 1 = steps + (extra + rest.length + 1 + 1) := by
    rw [List.length_append, List.length_cons]
    omega
  have hitems : ((es.map some).reverse ++ []).reverse.filterMap id = es := by
    simp [List.filterMap_map]
  change alternatives? _ _ ((text ++ ')' :: rest).length + 1) _ _ _ = _
  rw [hfuel, hread _ _ _ _ _ _ _ (by simp)]
  change some (Expr.choice ([] ++ [Expr.sequence (List.filterMap id _)]), _) = _
  rw [hitems]
  rfl

end MetastoreFederation.Regex
