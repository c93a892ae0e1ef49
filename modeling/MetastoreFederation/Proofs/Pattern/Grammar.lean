import MetastoreFederation.Pattern.Expression
import MetastoreFederation.Proofs.Regex.Marks
import MetastoreFederation.Proofs.Regex.Reading

/-!
The grammar of patterns. The expression of a pattern is read as one expression for each character of
the pattern, and each of these matches just the texts that the character may stand for. So a pattern
matches a name exactly if the name falls into such texts.
-/

set_option autoImplicit false
set_option relaxedAutoImplicit false

namespace MetastoreFederation.Pattern.Glob

open Regex

/-- How the expression of a pattern is read: a dot stands for line feeds, too. -/
def dotAll : Flags := { dotAll := true }

/-- All characters. -/
def anyChar : CharSet := .complement .empty

/-- One character of a pattern as an expression. -/
def pieceText (c : Char) : List Char := if isWildcard c then wildcardText c else escapeChar c

/-- What one character of a pattern is read as. -/
def pieceExpr (c : Char) : Expr :=
  if c = '*' then .repeat (.set anyChar) 0 none
  else if c = '.' then .set anyChar
  else .set (.single c)

section Reading

theorem plain_dotAll : dotAll.Plain := ⟨rfl, rfl, rfl⟩

/-- It makes no difference that literal characters are escaped together. -/
theorem expressionFrom_eq (literal p : List Char) :
    expressionFrom literal p = literal.flatMap escapeChar ++ p.flatMap pieceText := by
  induction p generalizing literal with
  | nil => exact (List.append_nil _).symm
  | cons c p ih =>
    unfold expressionFrom
    rw [List.flatMap_cons, pieceText]
    split_ifs
    · rw [ih, List.append_assoc]
      rfl
    · rw [ih, List.flatMap_append, List.flatMap_singleton, List.append_assoc]

theorem reads_dot : Reads dotAll ['.'] [.set anyChar] := by
  refine ⟨by decide, 1, Nat.le_refl 1, fun body top fuel finished items rest names _ => ?_⟩
  rw [Nat.add_comm]
  rfl

theorem reads_star : Reads dotAll ['.', '*'] [.repeat (.set anyChar) 0 none] := by
  refine ⟨by decide, 2, Nat.le_refl 2, fun body top fuel finished items rest names hrest => ?_⟩
  have hlazy : Input.pastLazy ⟨rest, dotAll, names⟩ = ⟨rest, dotAll, names⟩ := by
    unfold Input.pastLazy
    split
    · next heq =>
      dsimp only at heq
      exact absurd (congrArg List.head? heq) hrest
    · rfl
  rw [Nat.add_comm]
  change alternatives? body top fuel finished (some (.repeat (.set anyChar) 0 none) :: items)
    (Input.pastLazy ⟨rest, dotAll, names⟩) = _
  rw [hlazy]
  rfl

theorem reads_pieceText (c : Char) : Reads dotAll (pieceText c) [pieceExpr c] := by
  unfold pieceText wildcardText pieceExpr isWildcard
  by_cases hstar : c = '*'
  · rw [if_pos hstar, if_pos hstar, if_pos (by simp [hstar])]
    exact reads_star
  · rw [if_neg hstar, if_neg hstar]
    by_cases hdot : c = '.'
    · rw [if_pos hdot, if_pos (by simp [hdot])]
      exact reads_dot
    · rw [if_neg hdot, if_neg (by simp [hstar, hdot])]
      exact reads_escapeChar plain_dotAll c

/-- The expression of a pattern is always read, as that of its characters one after another. -/
theorem parse?_expression (pattern : String) :
    parse? (expression pattern) =
      some (.sequence [.look .textStart, .sequence (pattern.toList.map pieceExpr),
        .look .textEnd]) := by
  let pieces : Expr := .sequence (pattern.toList.map pieceExpr)
  let inner := pattern.toList.flatMap pieceText ++ [')', '$']
  have htext : (expression pattern).toList = '^' :: '(' :: '?' :: 's' :: ':' :: inner := by
    unfold expression
    rw [expressionFrom_eq, List.flatMap_nil, List.nil_append, String.toList_append,
      String.toList_append, String.toList_ofList (l := List.flatMap _ _)]
    rfl
  let group := '(' :: '?' :: 's' :: ':' :: inner
  let body := body? ('^' :: group).length false
  have hbody : body ⟨inner, dotAll, []⟩ = some (pieces, ⟨['$'], dotAll, []⟩) :=
    body?_of_reads plain_dotAll (reads_flatMap fun c _ => reads_pieceText c) _
  have hgroup : group? body ⟨'?' :: 's' :: ':' :: inner, {}, []⟩ =
      some (some pieces, ⟨['$'], {}, []⟩) := by
    change body ⟨inner, { dotAll := true }, []⟩ = _ at hbody
    simp [group?, flags?, hbody]
  have hstart : (⟨'^' :: group, {}, []⟩ : Input).blanks.rest = '^' :: group := rfl
  calc parse? (expression pattern)
    _ = (read? body true (group.length + 2) ⟨[], []⟩ ⟨'^' :: group, {}, []⟩).map Prod.fst :=
        parse?_eq htext
    _ = (read? body true (group.length + 1) ⟨[], [some (.look .textStart)]⟩ ⟨group, {}, []⟩).map
          Prod.fst := by
        rw [read?_step hstart (by decide)]
        rfl
    _ = (read? body true group.length ⟨[], [some pieces, some (.look .textStart)]⟩
          ⟨['$'], {}, []⟩).map Prod.fst := by
        rw [read?_group rfl]
        exact congrArg (fun read => Option.map Prod.fst (Option.bind read _)) hgroup
    _ = _ := rfl

end Reading

section Languages

/-- The texts that a character of a pattern may stand for. -/
def fitting (c : Char) : Language Char := {piece | Fits c piece}

theorem mem_fitting_iff {c : Char} {piece : List Char} :
    piece ∈ fitting c ↔ if c = '*' then True else if c = '.' then piece.length = 1
      else piece = [c] :=
  Iff.rfl

theorem singles_anyChar : Expr.singles anyChar = {piece | piece.length = 1} := by
  ext piece
  refine ⟨?_, fun h => ?_⟩
  · rintro ⟨c, rfl, -⟩
    rfl
  · obtain ⟨c, rfl⟩ := List.length_eq_one_iff.mp h
    exact ⟨c, rfl, rfl⟩

theorem mem_star_singles_anyChar (piece : List Char) :
    piece ∈ KStar.kstar (Expr.singles anyChar) := by
  refine Language.mem_kstar.mpr ⟨piece.map fun c => [c], ?_, fun word hword => ?_⟩
  · rw [← List.flatMap_def, List.flatMap_singleton']
  · obtain ⟨c, -, rfl⟩ := List.mem_map.mp hword
    exact ⟨c, rfl, rfl⟩

theorem takes_pieceExpr (c : Char) : (pieceExpr c).Takes (fitting c) := by
  unfold pieceExpr
  split_ifs with hstar hdot
  · have hfitting : fitting c = KStar.kstar (Expr.singles anyChar) := by
      ext piece
      rw [mem_fitting_iff, if_pos hstar]
      exact iff_of_true trivial (mem_star_singles_anyChar piece)
    rw [hfitting]
    exact (Expr.takes_set anyChar).star
  · have hfitting : fitting c = Expr.singles anyChar := by
      rw [singles_anyChar]
      ext piece
      rw [mem_fitting_iff, if_neg hstar, if_pos hdot]
      exact Iff.rfl
    rw [hfitting]
    exact Expr.takes_set anyChar
  · have hfitting : fitting c = Expr.singles (.single c) := by
      ext piece
      rw [mem_fitting_iff, if_neg hstar, if_neg hdot]
      constructor
      · rintro rfl
        exact ⟨c, rfl, by simp [CharSet.single, CharSet.holds]⟩
      · rintro ⟨d, rfl, hholds⟩
        simp only [CharSet.single, CharSet.holds, Bool.and_eq_true, decide_eq_true_eq] at hholds
        rw [Char.le_antisymm hholds.2 hholds.1]
    rw [hfitting]
    exact Expr.takes_set (.single c)

theorem covers_iff_exists_pieces {p s : List Char} :
    Covers p s ↔ ∃ pieces, List.Forall₂ Fits p pieces ∧ pieces.flatten = s := by
  constructor
  · intro h
    induction h with
    | nil => exact ⟨[], .nil, rfl⟩
    | @cons c p piece s hc _ ih =>
      obtain ⟨pieces, hpieces, rfl⟩ := ih
      exact ⟨piece :: pieces, .cons hc hpieces, rfl⟩
  · rintro ⟨pieces, hpieces, rfl⟩
    induction hpieces with
    | nil => exact .nil
    | cons hc _ ih => exact .cons hc ih

theorem mem_prod_fitting_iff {p s : List Char} : s ∈ (p.map fitting).prod ↔ Covers p s := by
  induction p generalizing s with
  | nil =>
    constructor
    · rintro rfl
      exact .nil
    · intro h
      cases h
      rfl
  | cons c p ih =>
    rw [List.map_cons, List.prod_cons]
    constructor
    · rintro ⟨piece, hpiece, rest, hrest, rfl⟩
      exact .cons hpiece (ih.mp hrest)
    · intro h
      cases h with
      | cons hc h => exact Language.append_mem_mul hc (ih.mpr h)

/-- The expression of a pattern matches just what the rows of answers say that it covers. -/
theorem matchesName_eq_covers (pattern name : String) :
    matchesName pattern name = covers pattern.toList name.toList := by
  have htakes : (Expr.sequence (pattern.toList.map pieceExpr)).Takes
      (pattern.toList.map fitting).prod :=
    .sequence fun c _ => takes_pieceExpr c
  unfold matchesName
  rw [parse?_expression, Option.any_some, Bool.eq_iff_iff, Expr.isMatch_whole_iff htakes,
    mem_prod_fitting_iff, covers_iff]

end Languages

/-- A pattern matches a name if and only if the name falls into consecutive pieces, one for each
character of the pattern in order: any text for a star, one character for a dot, and for any other
character itself. -/
theorem matchesName_iff_exists_pieces (pattern name : String) :
    matchesName pattern name = true ↔
      ∃ pieces : List (List Char), pieces.flatten = name.toList ∧
        List.Forall₂ (fun c piece => if c = '*' then True else if c = '.' then piece.length = 1
          else piece = [c]) pattern.toList pieces := by
  rw [matchesName_eq_covers, covers_iff, covers_iff_exists_pieces]
  exact exists_congr fun pieces => and_comm

end MetastoreFederation.Pattern.Glob
