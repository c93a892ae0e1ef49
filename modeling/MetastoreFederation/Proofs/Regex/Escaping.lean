import MetastoreFederation.Metastore.Gate
import MetastoreFederation.Proofs.Regex.Marks
import MetastoreFederation.Proofs.Regex.Reading
import MetastoreFederation.Proofs.Text.CaseFolding

/-!
Names as expressions. With a backslash in front of each character that means something, a name is an
expression that matches the name in any case, and nothing else.
-/

set_option autoImplicit false
set_option relaxedAutoImplicit false

namespace MetastoreFederation.Regex

open Text

/-- Case does not count. -/
def caseless : Flags := { caseless := true }

/-- The set of all forms of a character. -/
def forms (c : Char) : CharSet := .anyCase (.single c)

theorem holds_forms_iff {c d : Char} :
    (forms c).holds d = true ↔ CaseFold.fold c = CaseFold.fold d := by
  change (CaseFold.variants d).any (CharSet.range c c).holds = true ↔ _
  rw [List.any_eq_true, ← CaseFold.mem_variants_iff]
  constructor
  · rintro ⟨v, hv, hsame⟩
    simp only [CharSet.holds, Bool.and_eq_true, decide_eq_true_eq] at hsame
    rwa [Char.le_antisymm hsame.1 hsame.2]
  · intro hc
    exact ⟨c, hc, by simp [CharSet.holds]⟩

theorem plain_caseless : caseless.Plain := ⟨rfl, rfl, rfl⟩

/-- The expression of a name, without regard to case. -/
def literal (name : List Char) : Expr := .sequence (name.map fun c => .set (forms c))

section Entries

variable {entry : String} {e : Expr} {w : Input}

/-- The entry is read as the content of a group, behind the start of the name. -/
theorem parseEntry?_eq (entry : String) :
    parseEntry? entry =
      (body? (entry.length + 10) false ⟨entry.toList ++ [')', '$'], caseless, []⟩).bind fun read =>
        (read? (body? (entry.length + 10) false) true (entry.length + 8)
          ⟨[], [some read.1, some (.look .textStart), none]⟩
          { read.2 with flags := caseless }).map Prod.fst := by
  let group := '(' :: '?' :: ':' :: (entry.toList ++ [')', '$'])
  let body := body? (entry.length + 10) false
  have htext : ("(?i)^(?:" ++ entry ++ ")$").toList = '(' :: '?' :: 'i' :: ')' :: '^' :: group := by
    rw [String.toList_append, String.toList_append]
    rfl
  have hlength : ('(' :: '?' :: 'i' :: ')' :: '^' :: group).length = entry.length + 10 := by
    simp [group, String.length_toList]
  have hflags : group? body ⟨'?' :: 'i' :: ')' :: '^' :: group, {}, []⟩ =
      some (none, ⟨'^' :: group, caseless, []⟩) := by
    simp [group?, flags?, caseless]
  have hstart : (⟨'^' :: group, caseless, []⟩ : Input).blanks.rest = '^' :: group := rfl
  calc parseEntry? entry
    _ = (read? body true (entry.length + 11) ⟨[], []⟩
          ⟨'(' :: '?' :: 'i' :: ')' :: '^' :: group, {}, []⟩).map Prod.fst := by
        unfold parseEntry?
        rw [parse?_eq htext, hlength]
    _ = (read? body true (entry.length + 10) ⟨[], [none]⟩ ⟨'^' :: group, caseless, []⟩).map
          Prod.fst := by
        rw [read?_group rfl]
        exact congrArg (fun read => Option.map Prod.fst (Option.bind read _)) hflags
    _ = (read? body true (entry.length + 9) ⟨[], [some (.look .textStart), none]⟩
          ⟨group, caseless, []⟩).map Prod.fst := by
        rw [read?_step hstart (by decide)]
        rfl
    _ = _ := by
        rw [read?_plainGroup, Option.map_bind]
        rfl

theorem parseEntry?_of_body?
    (h : body? (entry.length + 10) false ⟨entry.toList ++ [')', '$'], caseless, []⟩ = some (e, w))
    (hw : w.rest = ['$']) :
    parseEntry? entry = some (.sequence [.look .textStart, e, .look .textEnd]) := by
  rw [parseEntry?_eq, h, Option.bind_some]
  dsimp only
  rw [hw]
  rfl

theorem parseEntry?_escape (name : String) :
    parseEntry? (escape name) =
      some (.sequence [.look .textStart, literal name.toList, .look .textEnd]) := by
  have hescape : (escape name).toList = name.toList.flatMap escapeChar := String.toList_ofList
  have hreads : Reads caseless (name.toList.flatMap escapeChar)
      (name.toList.map fun c => .set (forms c)) :=
    reads_flatMap fun c _ => reads_escapeChar plain_caseless c
  have hbody : body? ((escape name).length + 10) false
      ⟨(escape name).toList ++ [')', '$'], caseless, []⟩ =
        some (literal name.toList, ⟨['$'], caseless, []⟩) := by
    rw [hescape]
    exact body?_of_reads plain_caseless hreads _
  exact parseEntry?_of_body? hbody rfl

end Entries

/-- The entry of a list, read as an expression, matches the name. -/
def Lists (entry name : String) : Prop :=
  ∃ e, parseEntry? entry = some e ∧ e.isMatch name = true

/-- A name as an entry lists just the names that are equal to it but for case. -/
theorem sameFolded_iff_lists_escape {name other : String} :
    Metastore.sameFolded name other = true ↔ Lists (escape name) other := by
  have htakes : (literal name.toList).Takes ((name.toList.map forms).map Expr.singles).prod := by
    rw [List.map_map]
    exact .sequence fun c _ => Expr.takes_set (forms c)
  unfold Lists
  simp only [parseEntry?_escape, Option.some.injEq, exists_eq_left']
  unfold Metastore.sameFolded
  rw [Expr.isMatch_whole_iff htakes, Expr.mem_prod_singles_iff, List.forall₂_map_left_iff,
    beq_iff_eq, ← List.forall₂_eq_eq_eq, List.forall₂_map_left_iff, List.forall₂_map_right_iff]
  simp only [holds_forms_iff]

end MetastoreFederation.Regex
