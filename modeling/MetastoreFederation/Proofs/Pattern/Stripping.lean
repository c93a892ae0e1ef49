import Mathlib.Data.List.Basic
import MetastoreFederation.Pattern.Qualifier
import MetastoreFederation.Proofs.Text.Beginnings
import MetastoreFederation.Proofs.Text.Lowering

/-!
What stripping leaves of a name. A second stripping finds nothing more, unless what the first one
leaves starts with a catalog marker or has the default catalog in it, which the characters on both
sides of an erased qualifier may come to form.
-/

set_option autoImplicit false
set_option relaxedAutoImplicit false

namespace MetastoreFederation.Pattern.Qualifier

open Text

/-- What is left of a text before the sentinel stands in for a blank rest. -/
def bare (s : List Char) : List Char :=
  eraseSeparators (eraseMarkers (eraseDefault s))

/-- The text starts with a catalog marker, or the default catalog stands somewhere in it. -/
def Qualified (s : List Char) : Prop :=
  s.head? = some '@' ∨ ∃ t, t <:+ s ∧ (AsciiCase.dropStart? defaultCatalog.toList t).isSome

theorem eraseFrom_sublist (needle : List Char) (width due : Nat) (s : List Char) :
    (eraseFrom needle width due s).Sublist s := by
  induction s generalizing due with
  | nil => cases due <;> exact .slnil
  | cons c s ih =>
    cases due with
    | zero =>
      unfold eraseFrom
      split_ifs
      · exact (ih width).cons c
      · exact (ih 0).cons_cons c
    | succ due => exact (ih due).cons c

theorem eraseMarkers_sublist (s : List Char) : (eraseMarkers s).Sublist s := by
  unfold eraseMarkers
  split_ifs
  · exact List.filter_sublist
  · exact .refl s

theorem eraseSeparators_sublist (s : List Char) : (eraseSeparators s).Sublist s := by
  unfold eraseSeparators
  split_ifs
  · exact List.filter_sublist
  · exact .refl s

theorem bare_sublist (s : List Char) : (bare s).Sublist s :=
  (eraseSeparators_sublist _).trans <|
    (eraseMarkers_sublist _).trans (eraseFrom_sublist _ _ _ s)

/-- Erasing keeps a text just where the needle stands nowhere in it. -/
theorem eraseFrom_eq_self_iff (needle : List Char) (width : Nat) (s : List Char) :
    eraseFrom needle width 0 s = s ↔
      ∀ t, t ≠ [] → t <:+ s → ¬ (AsciiCase.dropStart? needle t).isSome := by
  induction s with
  | nil =>
    refine ⟨fun _ t hne ht => absurd (List.suffix_nil.mp ht) hne, fun _ => rfl⟩
  | cons c s ih =>
    rw [eraseFrom]
    split_ifs with hstart
    · refine ⟨fun h => ?_, fun h => absurd hstart (h _ (List.cons_ne_nil c s) List.suffix_rfl)⟩
      have hlength := (eraseFrom_sublist needle width width s).length_le
      rw [h, List.length_cons] at hlength
      omega
    · rw [List.cons.injEq, ih]
      refine ⟨fun h t hne ht => ?_, fun h => ⟨rfl, fun t hne ht => h t hne ?_⟩⟩
      · rcases List.suffix_cons_iff.mp ht with rfl | ht
        · exact hstart
        · exact h.2 t hne ht
      · exact ht.trans (List.suffix_cons c s)

theorem eraseDefault_eq_self_iff (s : List Char) :
    eraseDefault s = s ↔
      ∀ t, t <:+ s → ¬ (AsciiCase.dropStart? defaultCatalog.toList t).isSome := by
  refine (eraseFrom_eq_self_iff ..).trans ⟨fun h t ht => ?_, fun h t _ ht => h t ht⟩
  cases t with
  | nil => decide
  | cons c t => exact h _ (List.cons_ne_nil c t) ht

theorem eraseMarkers_eq_self_iff (s : List Char) : eraseMarkers s = s ↔ s.head? ≠ some '@' := by
  unfold eraseMarkers
  split_ifs with hhead
  · refine ⟨fun h => ?_, fun h => absurd hhead h⟩
    have hmem := List.mem_of_head? hhead
    rw [← h] at hmem
    simp at hmem
  · exact ⟨fun _ => hhead, fun _ => rfl⟩

/-- What is left of a text never ends with a catalog separator. -/
theorem getLast?_bare_ne (s : List Char) : (bare s).getLast? ≠ some '#' := by
  unfold bare eraseSeparators
  split_ifs with hlast
  · intro h
    have hmem := List.mem_of_getLast? h
    simp at hmem
  · exact hlast

/-- A text that does not end with a catalog separator is kept just where it is not qualified. -/
theorem bare_eq_self_iff {s : List Char} (hlast : s.getLast? ≠ some '#') :
    bare s = s ↔ ¬ Qualified s := by
  have hkept : ¬ Qualified s ↔ eraseMarkers s = s ∧ eraseDefault s = s := by
    rw [eraseMarkers_eq_self_iff, eraseDefault_eq_self_iff, Qualified, not_or, not_exists]
    simp only [not_and]
  rw [hkept]
  constructor
  · intro h
    have hmarkers : s.Sublist (eraseMarkers (eraseDefault s)) := by
      have hsub := eraseSeparators_sublist (eraseMarkers (eraseDefault s))
      rwa [← bare, h] at hsub
    have hdefault : eraseDefault s = s :=
      (eraseFrom_sublist _ _ _ s).antisymm (hmarkers.trans (eraseMarkers_sublist _))
    rw [hdefault] at hmarkers
    exact ⟨(eraseMarkers_sublist s).antisymm hmarkers, hdefault⟩
  · rintro ⟨hmarkers, hdefault⟩
    rw [bare, hdefault, hmarkers, eraseSeparators, if_neg hlast]

/-- A blank text has no marker in it. -/
theorem not_qualified_of_all_isBlank {s : List Char} (h : s.all Blank.isBlank = true) :
    ¬ Qualified s := by
  have hmarker : '@' ∉ s := fun hmem => absurd (List.all_eq_true.mp h _ hmem) (by decide)
  rintro (hhead | ⟨t, ht, hstart⟩)
  · exact hmarker (List.mem_of_head? hhead)
  · cases t with
    | nil => exact absurd hstart (by decide)
    | cons d t =>
      change (if AsciiCase.sameChar '@' d then _ else none).isSome = true at hstart
      split_ifs at hstart with hsame
      · have hd : d = '@' := Lowercase.eq_of_toLower_eq (by decide) (beq_iff_eq.mp hsame).symm
        exact hmarker (hd ▸ ht.mem List.mem_cons_self)
      · exact absurd hstart (by decide)

theorem toList_strip (value : String) :
    (strip value).toList =
      if (bare value.toList).all Blank.isBlank then defaultCatalog.toList
      else bare value.toList :=
  String.toList_ofList

/-- A second stripping finds no more qualifiers where the first one leaves none. -/
theorem strip_strip_of_not_qualified {value : String} (h : ¬ Qualified (bare value.toList)) :
    strip (strip value) = strip value := by
  have hbare := (bare_eq_self_iff (getLast?_bare_ne value.toList)).mpr h
  refine String.toList_inj.mp ?_
  rw [toList_strip (strip value), toList_strip value]
  by_cases hblank : (bare value.toList).all Blank.isBlank
  · rw [if_pos hblank]
    decide
  · rw [if_neg hblank, hbare, if_neg hblank]

/-- Where the first stripping leaves a qualifier, the second one makes another name of it. -/
theorem not_sameLower_strip_strip {value : String} (h : Qualified (bare value.toList)) :
    Lowercase.sameLower (strip (strip value)) (strip value) = false := by
  have hlast := getLast?_bare_ne value.toList
  have hbare : (strip value).toList = bare value.toList := by
    rw [toList_strip]
    exact if_neg fun hblank => not_qualified_of_all_isBlank hblank h
  have htwice := toList_strip (strip value)
  rw [hbare] at htwice
  split_ifs at htwice with hblank
  · -- The sentinel ends with a separator, and what one stripping leaves does not.
    refine beq_eq_false_iff_ne.mpr fun hlower => hlast ?_
    have hends : (Lowercase.lowerFrom [] (strip value).toList).getLast? = some '#' := by
      rw [← String.ofList_injective hlower, htwice]
      decide
    rw [← hbare]
    exact Lowercase.getLast?_of_getLast?_lowerFrom hends
  · refine Lowercase.not_sameLower_of_sublist ?_ fun heq => ?_
    · rw [htwice, hbare]
      exact bare_sublist _
    · rw [heq, hbare] at htwice
      exact (bare_eq_self_iff hlast).mp htwice.symm h

theorem eraseFrom_append (needle : List Char) (width : Nat) (due s : List Char) :
    eraseFrom needle width due.length (due ++ s) = eraseFrom needle width 0 s := by
  induction due with
  | nil => rfl
  | cons c due ih => exact ih

/-- A qualifier of the default catalog in front of a text is the first thing to be erased. -/
theorem eraseDefault_append {qualifier : String}
    (hqualifier : AsciiCase.same defaultCatalog qualifier = true) (s : List Char) :
    eraseDefault (qualifier.toList ++ s) = eraseDefault s := by
  have hdrop := AsciiCase.dropStart?_of_sameChars s hqualifier
  have hlength := congrArg List.length ((AsciiCase.same_iff_map_eq ..).mp hqualifier)
  rw [List.length_map, List.length_map] at hlength
  cases hlist : qualifier.toList with
  | nil => simp [hlist, defaultCatalog] at hlength
  | cons c due =>
    rw [hlist] at hdrop hlength
    have hdue : due.length = defaultCatalog.length - 1 := by
      rw [List.length_cons] at hlength
      change due.length = defaultCatalog.toList.length - 1
      omega
    unfold eraseDefault
    rw [List.cons_append, eraseFrom, ← List.cons_append, hdrop, if_pos Option.isSome_some, ← hdue]
    exact eraseFrom_append ..

/-- A name in the default catalog is stripped to the same as the name without its qualifier. -/
theorem strip_append {qualifier : String}
    (hqualifier : AsciiCase.same qualifier defaultCatalog = true) (value : String) :
    strip (qualifier ++ value) = strip value := by
  have herased := eraseDefault_append (AsciiCase.same_symm hqualifier) value.toList
  unfold strip stripChars
  rw [String.toList_append, herased]

/-- Nothing is left of the sentinel but the sentinel, whatever its case. -/
theorem strip_eq_of_same {value : String} (h : AsciiCase.same value defaultCatalog = true) :
    strip value = defaultCatalog := by
  have hstrip := strip_append h ""
  rw [String.append_empty] at hstrip
  rw [hstrip]
  decide

end MetastoreFederation.Pattern.Qualifier
