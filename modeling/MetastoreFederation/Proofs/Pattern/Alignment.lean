import Mathlib.Data.List.Basic
import MetastoreFederation.Pattern.Glob

/-!
Cutting a pattern and a name together. Two halves of a pattern cover what two parts of a name
make up, and where a name is cut in two, so is every pattern that covers it: between two of its
characters, or inside what a star stands for, which then is on both sides of the cut.
-/

set_option autoImplicit false
set_option relaxedAutoImplicit false

namespace MetastoreFederation.Pattern.Glob

theorem fits_self (c : Char) : Fits c [c] := by
  unfold Fits
  split_ifs <;> simp

theorem length_eq_one_of_fits {c : Char} {piece : List Char} (hstar : c ≠ '*')
    (h : Fits c piece) : piece.length = 1 := by
  rw [Fits, if_neg hstar] at h
  split_ifs at h with hdot
  · exact h
  · rw [h, List.length_singleton]

/-- Every pattern covers its own text. -/
theorem Covers.refl (p : List Char) : Covers p p := by
  induction p with
  | nil => exact .nil
  | cons c p ih => exact .cons (fits_self c) ih

theorem Covers.append {p q s t : List Char} (hp : Covers p s) (hq : Covers q t) :
    Covers (p ++ q) (s ++ t) := by
  induction hp with
  | nil => exact hq
  | cons hc _ ih =>
    rw [List.cons_append, List.append_assoc]
    exact .cons hc ih

theorem covers_append_iff {p q s : List Char} :
    Covers (p ++ q) s ↔ ∃ s₁ s₂, s = s₁ ++ s₂ ∧ Covers p s₁ ∧ Covers q s₂ := by
  constructor
  · intro h
    induction p generalizing s with
    | nil => exact ⟨[], s, rfl, .nil, h⟩
    | cons c p ih =>
      cases h with
      | @cons _ _ piece t hc ht =>
        obtain ⟨s₁, s₂, rfl, hp, hq⟩ := ih ht
        exact ⟨piece ++ s₁, s₂, (List.append_assoc ..).symm, .cons hc hp, hq⟩
  · rintro ⟨s₁, s₂, rfl, hp, hq⟩
    exact hp.append hq

theorem covers_star_cons_iff {p s : List Char} :
    Covers ('*' :: p) s ↔ ∃ s₁ s₂, s = s₁ ++ s₂ ∧ Covers p s₂ := by
  constructor
  · intro h
    cases h with
    | @cons _ _ piece t _ ht => exact ⟨piece, t, rfl, ht⟩
  · rintro ⟨s₁, s₂, rfl, hp⟩
    exact .cons (by simp [Fits]) hp

/-- A star at the end takes in whatever follows. -/
theorem Covers.append_of_star {p s : List Char} (h : Covers (p ++ ['*']) s) (t : List Char) :
    Covers (p ++ ['*']) (s ++ t) := by
  obtain ⟨s₁, s₂, rfl, hp, -⟩ := covers_append_iff.mp h
  rw [List.append_assoc]
  refine hp.append (covers_star_cons_iff.mpr ⟨s₂ ++ t, [], by simp, .nil⟩)

/-- What a pattern covers is covered up to any of its stars already. -/
theorem Covers.upTo_star {p q s : List Char} (h : Covers (p ++ '*' :: q) s) :
    Covers (p ++ ['*']) s := by
  rw [← List.singleton_append, ← List.append_assoc] at h
  obtain ⟨s₁, s₂, rfl, hp, -⟩ := covers_append_iff.mp h
  exact hp.append_of_star s₂

/-- A star at the end may stand for nothing. -/
theorem Covers.snoc_star {p s : List Char} (h : Covers p s) : Covers (p ++ ['*']) s := by
  have := h.append (covers_star_cons_iff.mpr ⟨[], [], rfl, .nil⟩)
  simpa using this

/-- Each character of a pattern but the stars takes one character of the name. -/
theorem Covers.countP_le {p s : List Char} (h : Covers p s) :
    p.countP (· != '*') ≤ s.length := by
  induction h with
  | nil => simp
  | @cons c p piece s hc _ ih =>
    rw [List.countP_cons, List.length_append]
    by_cases hstar : c = '*'
    · simp only [hstar, bne_self_eq_false]
      simp only [Bool.false_eq_true, if_false]
      omega
    · have := length_eq_one_of_fits hstar hc
      split_ifs <;> omega

theorem Covers.length_eq {p s : List Char} (h : Covers p s) (hstar : '*' ∉ p) :
    s.length = p.length := by
  induction h with
  | nil => rfl
  | @cons c p piece s hc _ ih =>
    rw [List.mem_cons, not_or] at hstar
    have := length_eq_one_of_fits (Ne.symm hstar.1) hc
    rw [List.length_append, List.length_cons, ih hstar.2]
    omega

/-- A pattern without wildcards covers its own text only. -/
theorem Covers.eq_of_literal {p s : List Char} (h : Covers p s) (hstar : '*' ∉ p)
    (hdot : '.' ∉ p) : s = p := by
  induction h with
  | nil => rfl
  | @cons c p piece s hc _ ih =>
    rw [List.mem_cons, not_or] at hstar hdot
    rw [Fits, if_neg (Ne.symm hstar.1), if_neg (Ne.symm hdot.1)] at hc
    rw [hc, ih hstar.2 hdot.2, List.singleton_append]

/-- Where a covered name is cut, the pattern can be cut too. A cut inside what a star stands for
leaves the star on both sides. -/
theorem Covers.cut {c s t : List Char} (h : Covers c (s ++ t)) :
    ∃ p q, c = p ++ q ∧ Covers p s ∧
      (Covers q t ∨ (p.getLast? = some '*' ∧ Covers ('*' :: q) t)) := by
  induction c generalizing s with
  | nil =>
    cases h' : s ++ t with
    | nil =>
      obtain ⟨rfl, rfl⟩ := List.append_eq_nil_iff.mp h'
      exact ⟨[], [], rfl, .nil, .inl .nil⟩
    | cons => rw [h'] at h; cases h
  | cons d c ih =>
    generalize hs : s ++ t = w at h
    cases h with
    | @cons _ _ piece rest hd hrest =>
      rcases List.append_eq_append_iff.mp hs with ⟨s', rfl, rfl⟩ | ⟨s', rfl, rfl⟩
      · -- The cut lies inside the first piece.
        by_cases hstar : d = '*'
        · subst hstar
          refine ⟨['*'], c, rfl, covers_star_cons_iff.mpr ⟨s, [], by simp, .nil⟩, .inr ⟨rfl, ?_⟩⟩
          exact covers_star_cons_iff.mpr ⟨s', rest, rfl, hrest⟩
        · have hlen := length_eq_one_of_fits hstar hd
          rw [List.length_append] at hlen
          rcases s with _ | ⟨x, s⟩
          · exact ⟨[], d :: c, rfl, .nil, .inl (.cons hd hrest)⟩
          · obtain rfl : s' = [] := List.eq_nil_of_length_eq_zero (by
              simp only [List.length_cons] at hlen
              omega)
            refine ⟨[d], c, rfl, ?_, .inl hrest⟩
            have := Covers.cons hd .nil
            simpa using this
      · obtain ⟨p, q, rfl, hp, hq⟩ := ih hrest
        refine ⟨d :: p, q, rfl, .cons hd hp, hq.imp_right fun h => ⟨?_, h.2⟩⟩
        have hne : p ≠ [] := by
          rintro rfl
          simp at h
        rw [List.getLast?_cons, h.1]
        rfl

end MetastoreFederation.Pattern.Glob
