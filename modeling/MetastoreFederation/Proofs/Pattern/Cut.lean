import Mathlib.Data.List.Basic
import MetastoreFederation.Proofs.Pattern.Alignment
import MetastoreFederation.Proofs.Pattern.Segments

/-!
What a cut of a clause says about names. The remainder never accepts a name that the clause does
not. A clause that no cut is found for covers no name behind the prefix, unless the search has
stepped over the only segment that the prefix fits, in a row of dots.
-/

set_option autoImplicit false
set_option relaxedAutoImplicit false

namespace MetastoreFederation.Pattern.Split

open Glob (Covers isWildcard covers covers_iff covers_append_iff covers_star_cons_iff)

theorem remainderAfter_append (segment rest : List Char) :
    remainderAfter (segment ++ rest) segment =
      if segment.getLast? = some '*' then '*' :: rest else rest := by
  unfold remainderAfter
  split_ifs with hlast
  · obtain ⟨init, rfl⟩ := List.getLast?_eq_some_iff.mp hlast
    simp
  · simp

/-- The two parts of a cut, with a star on the seam in both of them, unless the prefix stands at the
start of the clause as it is. -/
theorem cut?_eq_some {start clause : List Char} {c : Cut} (h : cut? start clause = some c) :
    ∃ rest, clause = c.consumed ++ rest ∧ Covers c.consumed start ∧
      ((c.remainder = rest ∧ (c.consumed = start ∨ c.consumed.getLast? ≠ some '*')) ∨
        (c.consumed.getLast? = some '*' ∧ c.remainder = '*' :: rest)) := by
  unfold cut? at h
  split at h
  · next rest hrest =>
    obtain rfl := Option.some.inj h
    exact ⟨rest, (List.append_eq_of_isPrefixOf?_eq_some hrest).symm, .refl start,
      .inl ⟨rfl, .inl rfl⟩⟩
  · obtain ⟨segment, hfind, rfl⟩ := Option.map_eq_some_iff.mp h
    have hcovers := List.find?_some hfind
    have hsuffix := (mem_segments_iff.mp (List.mem_of_find?_eq_some hfind)).suffix
    obtain ⟨rest, rfl⟩ := List.reverse_suffix.mp hsuffix
    refine ⟨rest, rfl, (covers_iff _ _).mp hcovers, ?_⟩
    rw [remainderAfter_append]
    split_ifs with hlast
    · exact .inr ⟨hlast, rfl⟩
    · exact .inl ⟨rfl, .inr hlast⟩

theorem remainder_suffix_of_cut? {start clause : List Char} {c : Cut}
    (h : cut? start clause = some c) : c.remainder <:+ clause := by
  obtain ⟨rest, rfl, -, ⟨hrest, -⟩ | ⟨hlast, hrest⟩⟩ := cut?_eq_some h
  · rw [hrest]
    exact List.suffix_append _ _
  · obtain ⟨init, hinit⟩ := List.getLast?_eq_some_iff.mp hlast
    rw [hinit, hrest, List.append_assoc]
    exact List.suffix_append _ _

/-- A cut invents nothing: what its remainder covers, the clause covers behind the prefix. -/
theorem covers_append_of_cut? {start clause name : List Char} {c : Cut}
    (h : cut? start clause = some c) (hname : Covers c.remainder name) :
    Covers clause (start ++ name) := by
  obtain ⟨rest, rfl, hstart, ⟨hrest, -⟩ | ⟨hlast, hrest⟩⟩ := cut?_eq_some h
  · exact hstart.append (hrest ▸ hname)
  · rw [hrest] at hname
    obtain ⟨front, back, rfl, hback⟩ := covers_star_cons_iff.mp hname
    obtain ⟨init, hinit⟩ := List.getLast?_eq_some_iff.mp hlast
    rw [hinit] at hstart ⊢
    rw [← List.append_assoc]
    exact (hstart.append_of_star front).append hback

theorem cut?_eq_none_iff {start clause : List Char} :
    cut? start clause = none ↔
      ¬ start <+: clause ∧ ∀ segment ∈ segments clause, ¬ Covers segment start := by
  have hlead : start.isPrefixOf? clause = none ↔ ¬ start <+: clause := by
    rw [← Option.not_isSome_iff_eq_none, List.isSome_isPrefixOf?_eq_isPrefixOf,
      List.isPrefixOf_iff_prefix]
  rw [← hlead]
  unfold cut?
  cases start.isPrefixOf? clause with
  | some rest => simp
  | none => simp [List.find?_eq_none, ← covers_iff]

/-- The prefix fits a segment in a row of dots that the search steps over: the segment is followed
by a dot, behind which an even row is left, and the prefix has another character where the segment
has a dot. -/
def Overstepped (start clause : List Char) : Prop :=
  ∃ segment ahead, clause = segment ++ '.' :: ahead ∧ Even (dotRow ahead) ∧ '.' ∈ segment ∧
    '*' ∉ segment ∧ segment ≠ start ∧ Covers segment start

/-- A clause covers some name behind a prefix as soon as one of its segments covers the prefix. -/
theorem Overstepped.covers {start clause : List Char} (h : Overstepped start clause) :
    ∃ name, Covers clause (start ++ name) := by
  obtain ⟨segment, ahead, rfl, -, -, -, -, hstart⟩ := h
  exact ⟨'.' :: ahead, hstart.append (.refl _)⟩

/-- Where no cut is found, a segment that the prefix fits was stepped over. -/
theorem overstepped_of_covers {start segment rest : List Char}
    (hnone : cut? start (segment ++ rest) = none) (hstart : Covers segment start) :
    Overstepped start (segment ++ rest) := by
  obtain ⟨hlead, htried⟩ := cut?_eq_none_iff.mp hnone
  have hne : segment ≠ start := by
    rintro rfl
    exact hlead (List.prefix_append _ _)
  have hstar : '*' ∉ segment := by
    intro hmem
    obtain ⟨front, back, rfl⟩ := List.append_of_mem hmem
    have hmem := snoc_star_mem_segments front (back ++ rest)
    rw [← List.cons_append, ← List.append_assoc] at hmem
    exact htried _ hmem hstart.upTo_star
  have hdot : '.' ∈ segment := by
    by_contra hmem
    exact hne (hstart.eq_of_literal hstar hmem).symm
  have hodd : ¬ Even (dotRow rest) := fun heven =>
    htried segment ((mem_segments_iff_even_dotRow hdot hstar).mpr heven) hstart
  cases rest with
  | nil => simp [dotRow] at hodd
  | cons c ahead =>
    rw [dotRow] at hodd
    split_ifs at hodd with hd hs
    · subst hd
      rw [Nat.even_add_one, not_not] at hodd
      exact ⟨segment, ahead, rfl, hodd, hdot, hstar, hne, hstart⟩
    · -- The segment with the star behind it is tried, and the prefix fits it as well.
      subst hs
      exact absurd hstart.snoc_star (htried _ (snoc_star_mem_segments segment ahead))
    · simp at hodd

theorem Overstepped.cut?_eq_none {start clause : List Char} (h : Overstepped start clause) :
    cut? start clause = none := by
  obtain ⟨segment, ahead, rfl, heven, hdot, hstar, hne, hstart⟩ := h
  have hlen := hstart.length_eq hstar
  refine cut?_eq_none_iff.mpr ⟨fun hlead => ?_, fun tried htried hcovers => ?_⟩
  · have := List.prefix_of_prefix_length_le hlead (List.prefix_append segment _) (by omega)
    exact hne (this.eq_of_length hlen).symm
  · have hseg : tried ≠ segment := by
      rintro rfl
      rw [mem_segments_iff_even_dotRow hdot hstar, dotRow, if_pos rfl, Nat.even_add_one] at htried
      exact htried heven
    have hlead : tried <+: segment ++ '.' :: ahead :=
      List.reverse_suffix.mp (mem_segments_iff.mp htried).suffix
    rcases List.prefix_or_prefix_of_prefix hlead (List.prefix_append segment _) with h | ⟨back, rfl⟩
    · -- A shorter segment has no star either, so it is too short for the prefix.
      have hshort := hcovers.length_eq fun hmem => hstar (h.subset hmem)
      exact hseg (h.eq_of_length (by omega))
    · -- A longer segment asks for one more character at least.
      have hback : back ≠ [] := by
        rintro rfl
        exact hseg (List.append_nil segment)
      obtain ⟨c, back, rfl⟩ := List.exists_cons_of_ne_nil hback
      rw [List.prefix_append_right_inj, List.cons_prefix_cons] at hlead
      obtain rfl := hlead.1
      have hcount := hcovers.countP_le
      have hall : segment.countP (· != '*') = segment.length :=
        List.countP_eq_length.mpr fun c hc => by
          have : c ≠ '*' := fun heq => hstar (heq ▸ hc)
          simpa using this
      rw [List.countP_append, hall, List.countP_cons] at hcount
      simp at hcount
      omega

/-- No cut is found exactly where the clause covers no name behind the prefix or the search
oversteps. -/
theorem cut?_eq_none_iff_overstepped {start clause : List Char} :
    cut? start clause = none ↔
      (∀ name, ¬ Covers clause (start ++ name)) ∨ Overstepped start clause := by
  constructor
  · intro hnone
    by_cases hname : ∃ name, Covers clause (start ++ name)
    · obtain ⟨name, hname⟩ := hname
      obtain ⟨segment, rest, rfl, hstart, -⟩ := hname.cut
      exact .inr (overstepped_of_covers hnone hstart)
    · exact .inl fun name h => hname ⟨name, h⟩
  · rintro (hnone | hover)
    · cases hcut : cut? start clause with
      | none => rfl
      | some c => exact absurd (covers_append_of_cut? hcut (.refl c.remainder)) (hnone _)
    · exact hover.cut?_eq_none

end MetastoreFederation.Pattern.Split
