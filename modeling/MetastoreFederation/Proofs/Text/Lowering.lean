import Mathlib.Data.List.Basic
import MetastoreFederation.Text.Lowercase

/-!
How much of a text its lower-case form keeps: its length, up to the dots of capital dotted letters,
and a catalog separator at its end.
-/

set_option autoImplicit false
set_option relaxedAutoImplicit false

namespace MetastoreFederation.Text.Lowercase

theorem length_lowerBetween (before : List Char) (c : Char) (after : List Char) :
    (lowerBetween before c after).length = 1 + [c].count 'İ' := by
  unfold lowerBetween
  by_cases hdotted : c = 'İ'
  · simp [hdotted]
  · have hcount : [c].count 'İ' = 0 := by simp [List.count_eq_zero, Ne.symm hdotted]
    rw [if_neg hdotted, hcount]
    split_ifs <;> rfl

/-- The lower-case form is longer than the text by its capital dotted letters. -/
theorem length_lowerFrom (before s : List Char) :
    (lowerFrom before s).length = s.length + s.count 'İ' := by
  induction s generalizing before with
  | nil => rfl
  | cons c s ih =>
    rw [lowerFrom, List.length_append, length_lowerBetween, ih, List.length_cons,
      List.count_cons (l := s), List.count_singleton]
    split_ifs <;> omega

/-- Erasing characters from a text changes its lower-case form. -/
theorem not_sameLower_of_sublist {s t : String} (hsub : s.toList.Sublist t.toList) (hne : s ≠ t) :
    sameLower s t = false := by
  have hlength : s.toList.length < t.toList.length := by
    refine Nat.lt_of_le_of_ne hsub.length_le fun hlength => hne ?_
    exact String.toList_inj.mp (hsub.eq_of_length hlength)
  have hcount := hsub.count_le 'İ'
  refine beq_eq_false_iff_ne.mpr fun hlower => ?_
  have hlengths := congrArg List.length (String.ofList_injective hlower)
  rw [length_lowerFrom, length_lowerFrom] at hlengths
  omega

private theorem separator_lt_of_mem_runs {r : Table.Run} (hr : r ∈ Table.runs) :
    '#'.toNat < (r.first + r.shift).toNat := by
  have hall : Table.runs.all (fun r => '#'.toNat < (r.first + r.shift).toNat) = true := by
    decide +kernel
  exact of_decide_eq_true (List.all_eq_true.mp hall r hr)

private theorem toNat_ofNat_ne {n m : Nat} (hm : 0 < m) (h : m < n) :
    (Char.ofNat n).toNat ≠ m := by
  unfold Char.ofNat
  by_cases hvalid : n.isValidChar
  · rw [dif_pos hvalid]
    exact Nat.ne_of_gt h
  · rw [dif_neg hvalid]
    exact Nat.ne_of_lt hm

/-- Only a character below the small ASCII letters has itself as its ASCII lower case there. -/
theorem eq_of_toLower_eq {c d : Char} (hd : d.toNat < 'a'.toNat) (h : c.toLower = d) : c = d := by
  unfold Char.toLower at h
  split_ifs at h with hupper
  · have hge : 65 ≤ c.val.toNat := UInt32.le_iff_toNat_le.mp hupper.1
    have hle : c.val.toNat ≤ 90 := UInt32.le_iff_toNat_le.mp hupper.2
    have hsum : (c.val.toNat + 32) % 2 ^ 32 = d.toNat :=
      (UInt32.toNat_add ..).symm.trans (congrArg Char.toNat h)
    change d.toNat < 97 at hd
    omega
  · exact h

/-- No other character becomes a catalog separator. -/
theorem eq_separator_of_lowerChar {c : Char} (h : lowerChar c = '#') : c = '#' := by
  unfold lowerChar at h
  split_ifs at h with hascii
  · exact eq_of_toLower_eq (by decide) h
  · split at h
    · next r hr =>
      have hlt := separator_lt_of_mem_runs (List.mem_of_find?_eq_some hr)
      have hholds := List.find?_some hr
      simp only [Table.Run.holds, Bool.and_eq_true, decide_eq_true_eq] at hholds
      exact absurd (congrArg Char.toNat h) (toNat_ofNat_ne (by decide) (by omega))
    · exact h

theorem getLast?_of_getLast?_lowerFrom {before s : List Char}
    (h : (lowerFrom before s).getLast? = some '#') : s.getLast? = some '#' := by
  induction s generalizing before with
  | nil => exact h
  | cons c s ih =>
    cases s with
    | nil =>
      unfold lowerFrom lowerFrom lowerBetween at h
      split_ifs at h
      · simp at h
      · simp at h
      · simp at h
      · have hlast : lowerChar c = '#' := by simpa using h
        rw [eq_separator_of_lowerChar hlast]
        rfl
    | cons d s =>
      have hne : lowerFrom (c :: before) (d :: s) ≠ [] := by
        refine List.ne_nil_of_length_pos ?_
        rw [length_lowerFrom, List.length_cons]
        omega
      rw [lowerFrom, List.getLast?_append_of_ne_nil _ hne] at h
      rw [List.getLast?_cons_cons]
      exact ih h

end MetastoreFederation.Text.Lowercase
