import MetastoreFederation.Proofs.Regex.Alternatives
import MetastoreFederation.Proofs.Regex.Escaping
import MetastoreFederation.Proofs.Regex.Spans

/-!
Entries as expressions. An entry is read in a group of its own between the start and the end of a
name, and nothing checks that it stays inside that group. It does so, and then lists the names that
it matches as a whole, unless one of its parentheses closes the group.
-/

set_option autoImplicit false
set_option relaxedAutoImplicit false

namespace MetastoreFederation.Regex

/-- Reads a text on its own, with flags that hold from its start. -/
def parseUnder? (flags : Flags) (text : String) : Option Expr :=
  (body? (text.length + 1) true ⟨text.toList, flags, []⟩).map Prod.fst

/-- On its own, without regard to case, the entry is an expression that matches the whole name. -/
def MatchesAlone (entry name : String) : Prop :=
  ∃ own, parseUnder? caseless entry = some own ∧ own.MatchesWhole name

/-- The entry is an expression on its own, with regard to case and without, and lists just the names
that it matches as a whole. -/
structure ListsWholeNames (entry : String) : Prop where
  cased : (parse? entry).isSome
  caseless : (parseUnder? caseless entry).isSome
  lists_iff : ∀ name, Lists entry name ↔ MatchesAlone entry name

/-- A parenthesis of the entry closes a group that is not the entry's own: what stands before it is
the content of a group. -/
def ClosesGroup (entry : String) : Prop :=
  ∃ front back, entry = front ++ ")" ++ back ∧ (parse? ("(?:" ++ front ++ ")")).isSome

section Ends

variable {entry : String} {depth : Nat} {e : Expr} {w : Input} {front back behind : List Char}

theorem parse?_plainGroup (text : String) :
    parse? ("(?:" ++ text ++ ")") =
      (body? (text.length + 4) false ⟨text.toList ++ [')'], {}, []⟩).bind fun read =>
        (read? (body? (text.length + 4) false) true (text.length + 4) ⟨[], [some read.1]⟩
          { read.2 with flags := {} }).map Prod.fst := by
  have htext : ("(?:" ++ text ++ ")").toList = '(' :: '?' :: ':' :: (text.toList ++ [')']) := by
    rw [String.toList_append, String.toList_append]
    rfl
  have hlength : ('(' :: '?' :: ':' :: (text.toList ++ [')'])).length = text.length + 4 := by
    simp [String.length_toList]
  rw [parse?_eq htext, hlength, read?_plainGroup, Option.map_bind]
  rfl

theorem parseUnder?_of_ends {flags : Flags} {u : Input} {text : List Char}
    (htext : entry.toList = text)
    (h : ∀ depth top, text.length < depth → body? depth top ⟨text, flags, []⟩ = ends? top e u) :
    parseUnder? flags entry = (ends? true e u).map Prod.fst := by
  unfold parseUnder?
  rw [htext, h _ true (by rw [← htext, String.length_toList]; exact Nat.lt_succ_self _)]

/-- An entry that fills a group is an expression on its own, and the same one under the same
flags. -/
theorem parseUnder?_of_body? (h : body? depth false ⟨entry.toList ++ ')' :: behind, caseless, []⟩ =
      some (e, w)) (hw : w.rest = behind) (c : Bool) :
    ∃ e', parseUnder? { caseless := c } entry = some e' ∧ (c = true → e = e') := by
  let T : Tails := ⟨')' :: behind, [], rfl, by simp, c = true⟩
  have hflags : T.SameFlags caseless { caseless := c } := ⟨rfl, rfl, rfl, rfl, rfl, id⟩
  obtain ⟨e', u, hu, he, hread⟩ := Tails.exists_ends_of_body? (T := T) h (congrArg _ hw) hflags
  refine ⟨e', ?_, he⟩
  rw [parseUnder?_of_ends (List.append_nil _).symm hread]
  unfold ends?
  rw [show u.rest = [] from hu]
  rfl

/-- What stands before a parenthesis that closes the group is the content of a group. -/
theorem isSome_parse?_plainGroup (h : body? depth false ⟨front ++ ')' :: behind, caseless, []⟩ =
      some (e, w)) (hw : w.rest = behind) :
    (parse? ("(?:" ++ String.ofList front ++ ")")).isSome := by
  let T : Tails := ⟨')' :: behind, [')'], rfl, fun _ hc => (Option.some.inj hc).symm, False⟩
  have hflags : T.SameFlags caseless {} := ⟨rfl, rfl, rfl, rfl, rfl, False.elim⟩
  obtain ⟨e', u, hu, -, hread⟩ := Tails.exists_ends_of_body? (T := T) h (congrArg _ hw) hflags
  have hu : u.rest = [')'] := hu
  rw [parse?_plainGroup, String.toList_ofList, String.length_ofList]
  change (Option.bind (body? _ false ⟨front ++ T.other, {}, []⟩) _).isSome
  rw [hread _ false (by simp [T])]
  have hends : ends? false e' u = some (e', u.skip 1) := by
    unfold ends?
    rw [hu]
    rfl
  have hend : ({ u.skip 1 with flags := {} } : Input).blanks.rest = [] := by
    change u.rest.drop 1 = []
    rw [hu]
    rfl
  rw [hends, Option.bind_some, read?_ends (by simp [hend])]
  unfold ends?
  rw [hend]
  rfl

theorem parse?_of_closesGroup (h : ClosesGroup entry) : parse? entry = none := by
  obtain ⟨front, back, rfl, hsome⟩ := h
  rw [parse?_plainGroup] at hsome
  obtain ⟨whole, hwhole⟩ := Option.isSome_iff_exists.mp hsome
  obtain ⟨⟨e, w⟩, hbody, -⟩ := Option.bind_eq_some_iff.mp hwhole
  obtain ⟨before, hbefore⟩ := (Tails.follows_body? (T := .closing) hbody).suffix
  let T : Tails := ⟨')' :: w.rest, ')' :: (w.rest ++ back.toList), rfl,
    fun _ hc => (Option.some.inj hc).symm, False⟩
  have hbefore : before ++ T.given = front.toList ++ [')'] := hbefore
  rw [← hbefore] at hbody
  obtain ⟨e', u, hu, -, hread⟩ := Tails.exists_ends_of_body? (T := T) hbody rfl
    ⟨rfl, rfl, rfl, rfl, rfl, fun _ => rfl⟩
  have htext : (front ++ ")" ++ back).toList = before ++ T.other := by
    have hother : T.other = T.given ++ back.toList := rfl
    rw [hother, ← List.append_assoc, hbefore, String.toList_append, String.toList_append]
    rfl
  change parseUnder? {} _ = _
  rw [parseUnder?_of_ends htext hread]
  unfold ends?
  rw [show u.rest = ')' :: (w.rest ++ back.toList) from hu]
  rfl

/-- Behind an entry that is followed by the end of its group, the group ends there or before. -/
theorem left_eq_or_exists {left text : List Char}
    (h : front ++ ')' :: left = text ++ [')', '$']) :
    left = ['$'] ∨ ∃ back, text = front ++ ')' :: back ∧ left = back ++ [')', '$'] := by
  rcases List.append_eq_append_iff.mp h with ⟨middle, rfl, hleft⟩ | ⟨middle, rfl, hleft⟩
  · cases middle with
    | nil => exact .inl (List.cons.inj hleft).2
    | cons c back =>
      obtain ⟨rfl, rfl⟩ := List.cons.inj hleft
      exact .inr ⟨back, rfl, rfl⟩
  · cases middle with
    | nil => exact .inl (List.cons.inj hleft).2.symm
    | cons c middle => cases middle <;> simp at hleft

/-- An accepted entry is an expression on its own, and lists the names that it matches as a whole,
unless it closes the group it stands in. -/
theorem listsWholeNames_iff (h : parseEntry? entry = some e) :
    ListsWholeNames entry ↔ ¬ClosesGroup entry := by
  constructor
  · intro hlists hcloses
    have hcased := hlists.cased
    rw [parse?_of_closesGroup hcloses] at hcased
    cases hcased
  · intro hcloses
    rw [parseEntry?_eq] at h
    obtain ⟨⟨inner, w⟩, hbody, -⟩ := Option.bind_eq_some_iff.mp h
    obtain ⟨front, hfront⟩ := (Tails.follows_body? (T := .closing) hbody).suffix
    rcases left_eq_or_exists hfront with hw | ⟨back, hback, hw⟩
    · obtain ⟨own, hown, hsame⟩ := parseUnder?_of_body? hbody hw true
      obtain rfl := hsame rfl
      obtain ⟨e', he', -⟩ := parseUnder?_of_body? hbody hw false
      refine ⟨Option.isSome_iff_exists.mpr ⟨e', he'⟩, Option.isSome_iff_exists.mpr ⟨inner, hown⟩,
        fun name => ?_⟩
      unfold Lists MatchesAlone
      simp only [parseEntry?_of_body? hbody hw, show parseUnder? caseless entry = _ from hown,
        Option.some.injEq, exists_eq_left']
      exact Expr.isMatch_between_iff_matchesWhole
    · refine absurd ⟨String.ofList front, String.ofList back, ?_, ?_⟩ hcloses
      · refine String.toList_inj.mp ?_
        simp [hback]
      · rw [hback, List.append_assoc] at hbody
        exact isSome_parse?_plainGroup hbody hw

end Ends

end MetastoreFederation.Regex
