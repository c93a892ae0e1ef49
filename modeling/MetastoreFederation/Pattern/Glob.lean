/-!
Name patterns. A star stands for any run of characters, a dot for exactly one, and every other
character for itself. `covers` decides whether a pattern covers a whole name, one row of answers
for each suffix of the name; `covers_iff` says that the rows agree with the cutting of the name into
one piece for each character of the pattern.
-/

set_option autoImplicit false
set_option relaxedAutoImplicit false

namespace MetastoreFederation.Pattern.Glob

/-- The wildcards of a pattern. -/
def isWildcard (c : Char) : Bool :=
  c == '*' || c == '.'

/-- The text that one character of a pattern may stand for. -/
def Fits (c : Char) (piece : List Char) : Prop :=
  if c = '*' then True else if c = '.' then piece.length = 1 else piece = [c]

/-- The name falls into consecutive pieces, one for each character of the pattern in order. -/
inductive Covers : List Char → List Char → Prop
  | nil : Covers [] []
  | cons {c : Char} {p piece s : List Char} :
      Fits c piece → Covers p s → Covers (c :: p) (piece ++ s)

/-- For each suffix of the pattern, whether it covers the empty name. -/
def emptyRow : List Char → List Bool
  | [] => [true]
  | c :: p =>
    let rest := emptyRow p
    (c == '*' && rest.headD false) :: rest

/-- From the answers for a name to those for the name with `c` put in front of it. -/
def extendRow (c : Char) : List Char → List Bool → List Bool
  | [], _ => [false]
  | _ :: _, [] => []
  | d :: p, skip :: row =>
    let rest := extendRow c p row
    let first :=
      if d = '*' then skip || rest.headD false
      else if d = '.' ∨ d = c then row.headD false
      else false
    first :: rest

/-- For each suffix of the pattern, whether it covers the name. -/
def row (p : List Char) : List Char → List Bool
  | [] => emptyRow p
  | c :: s => extendRow c p (row p s)

/-- Whether the pattern covers the whole name. -/
def covers (p s : List Char) : Bool :=
  (row p s).headD false

@[simp] theorem row_nil (s : List Char) : row [] s = [s.isEmpty] := by
  cases s <;> simp [row, emptyRow, extendRow]

theorem row_cons (d : Char) (p s : List Char) : row (d :: p) s = covers (d :: p) s :: row p s := by
  induction s with
  | nil => simp [row, covers, emptyRow]
  | cons c s ih =>
    rw [covers, row, ih, extendRow]
    rfl

@[simp] theorem covers_nil (s : List Char) : covers [] s = s.isEmpty := by
  simp [covers]

@[simp] theorem covers_cons_nil (d : Char) (p : List Char) :
    covers (d :: p) [] = (d == '*' && covers p []) := by
  simp [covers, row, emptyRow]

@[simp] theorem covers_cons_cons (d c : Char) (p s : List Char) :
    covers (d :: p) (c :: s) =
      if d = '*' then covers (d :: p) s || covers p (c :: s)
      else if d = '.' ∨ d = c then covers p s
      else false := by
  rw [covers, row, row_cons, extendRow]
  rfl

private theorem covers_of_star {p s : List Char} (piece : List Char) (h : covers p s = true) :
    covers ('*' :: p) (piece ++ s) = true := by
  induction piece with
  | nil => cases s <;> simp [h]
  | cons c piece ih => simp [ih]

private theorem covers_of_covers {p s : List Char} (h : Covers p s) : covers p s = true := by
  induction h with
  | nil => rfl
  | @cons c p piece s hc _ ih =>
    unfold Fits at hc
    split at hc
    · next hs => exact hs ▸ covers_of_star piece ih
    · split at hc
      · next hs hd =>
        obtain ⟨x, rfl⟩ := List.length_eq_one_iff.1 hc
        simp [hd, ih]
      · next hs hd => simp [hc, hs, ih]

private theorem covers_of_eq_true {p s : List Char} (h : covers p s = true) : Covers p s := by
  induction p generalizing s with
  | nil =>
    cases s with
    | nil => exact .nil
    | cons c s => simp at h
  | cons d p ihp =>
    induction s with
    | nil =>
      simp only [covers_cons_nil, Bool.and_eq_true, beq_iff_eq] at h
      exact @Covers.cons d p [] [] (by simp [Fits, h.1]) (ihp h.2)
    | cons c s ihs =>
      rw [covers_cons_cons] at h
      split at h
      · next hd =>
        rcases Bool.or_eq_true _ _ ▸ h with h | h
        · have hrest := ihs h
          cases hrest with
          | @cons _ _ piece t _ ht =>
            exact @Covers.cons d p (c :: piece) t (by simp [Fits, hd]) ht
        · exact @Covers.cons d p [] (c :: s) (by simp [Fits, hd]) (ihp h)
      · split at h
        · next hs hd =>
          refine @Covers.cons d p [c] s ?_ (ihp h)
          rcases hd with hd | hd <;> simp [Fits, hd]
        · simp at h

theorem covers_iff (p s : List Char) : covers p s = true ↔ Covers p s :=
  ⟨covers_of_eq_true, covers_of_covers⟩

end MetastoreFederation.Pattern.Glob
