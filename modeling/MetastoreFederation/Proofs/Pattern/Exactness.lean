import MetastoreFederation.Pattern.Decompose
import MetastoreFederation.Proofs.Pattern.Cut
import MetastoreFederation.Proofs.Pattern.Grammar

/-!
Where a cut loses nothing. Behind the prefix, a clause asks of a name just what its remainder asks,
if the segment that was consumed has no star, or if it ends with a star and no longer segment fits
the prefix. The star, which the remainder keeps, then takes in whatever the clause has between a
place where the prefix might end earlier and the cut.
-/

set_option autoImplicit false
set_option relaxedAutoImplicit false

namespace MetastoreFederation.Pattern

open Glob (Covers covers_iff covers_append_iff covers_star_cons_iff)

namespace Split

/-- The star at the end of the consumed segment stays with the remainder, unless the prefix itself
ends with it. -/
theorem remainder_of_star {start clause : List Char} {c : Cut} (hstart : '*' ∉ start)
    (h : cut? start clause = some c) (hlast : c.consumed.getLast? = some '*') :
    ∃ rest, clause = c.consumed ++ rest ∧ c.remainder = '*' :: rest := by
  obtain ⟨rest, hclause, -, ⟨-, hsame | hnot⟩ | ⟨-, hrest⟩⟩ := cut?_eq_some h
  · exact absurd (hsame ▸ List.mem_of_getLast? hlast) hstart
  · exact absurd hlast hnot
  · exact ⟨rest, hclause, hrest⟩

/-- A segment without a star takes as many characters of a name as it has, so behind it only one cut
of the name is possible. -/
theorem covers_remainder_of_noStar {start clause name : List Char} {c : Cut}
    (h : cut? start clause = some c) (hstar : '*' ∉ c.consumed)
    (hname : Covers clause (start ++ name)) : Covers c.remainder name := by
  obtain ⟨rest, rfl, hstart, ⟨hrest, -⟩ | ⟨hlast, -⟩⟩ := cut?_eq_some h
  · obtain ⟨front, back, heq, hfront, hback⟩ := covers_append_iff.mp hname
    have hlength : start.length = front.length := by
      rw [hstart.length_eq hstar, hfront.length_eq hstar]
    rw [hrest, (List.append_inj heq hlength).2]
    exact hback
  · exact absurd (List.mem_of_getLast? hlast) hstar

/-- A star takes in all that a pattern in front of the rest asks for. -/
theorem covers_star_of_append {middle rest name : List Char} (h : Covers (middle ++ rest) name) :
    Covers ('*' :: rest) name := by
  obtain ⟨front, back, rfl, -, hback⟩ := covers_append_iff.mp h
  exact covers_star_cons_iff.mpr ⟨front, back, rfl, hback⟩

/-- Wherever in the clause the prefix ends, it ends within the longest segment that it fits, and the
star takes in what is left of that segment. -/
theorem covers_remainder_of_longest {start clause name : List Char} {c : Cut} (hstart : '*' ∉ start)
    (h : cut? start clause = some c) (hlast : c.consumed.getLast? = some '*')
    (hlongest : ∀ segment, segment <+: clause → Covers segment start →
      segment.length ≤ c.consumed.length)
    (hname : Covers clause (start ++ name)) : Covers c.remainder name := by
  obtain ⟨rest, hclause, hrest⟩ := remainder_of_star hstart h hlast
  obtain ⟨segment, behind, rfl, hsegment, hbehind⟩ := hname.cut
  have hle := hlongest segment (List.prefix_append segment behind) hsegment
  have hwithin : segment <+: c.consumed :=
    List.prefix_of_prefix_length_le (List.prefix_append segment behind)
      (hclause ▸ List.prefix_append c.consumed rest) hle
  obtain ⟨middle, hmiddle⟩ := hwithin
  rw [← hmiddle, List.append_assoc, List.append_cancel_left_eq] at hclause
  rw [hrest]
  rcases hbehind with hbehind | ⟨-, hbehind⟩
  · exact covers_star_of_append (hclause ▸ hbehind)
  · rw [hclause, ← List.cons_append] at hbehind
    exact covers_star_of_append hbehind

end Split

namespace Decompose

theorem split?_eq_some {start clause consumed remainder : String}
    (h : split? start clause = some (consumed, remainder)) :
    Split.cut? start.toList clause.toList = some ⟨consumed.toList, remainder.toList⟩ := by
  obtain ⟨c, hcut, heq⟩ := Option.map_eq_some_iff.mp h
  obtain ⟨rfl, rfl⟩ := Prod.mk.inj heq
  rw [String.toList_ofList, String.toList_ofList]
  exact hcut

/-- A split is exact if it consumed no star, or if it consumed one last and no longer segment of the
clause matches the prefix: the clause then matches a name behind the prefix if and only if the
remainder matches the name. -/
theorem matchesName_append_iff_of_exact {start clause consumed remainder : String}
    (hstart : '*' ∉ start.toList) (hsplit : split? start clause = some (consumed, remainder))
    (hexact : '*' ∉ consumed.toList ∨ (consumed.toList.getLast? = some '*' ∧
      ¬ ∃ segment : String, segment.toList <+: clause.toList ∧
        consumed.length < segment.length ∧ Glob.matchesName segment start = true))
    (name : String) :
    Glob.matchesName clause (start ++ name) = true ↔ Glob.matchesName remainder name = true := by
  have hcut := split?_eq_some hsplit
  rw [Glob.matchesName_eq_covers, Glob.matchesName_eq_covers, covers_iff, covers_iff,
    String.toList_append]
  refine ⟨fun hname => ?_, Split.covers_append_of_cut? hcut⟩
  rcases hexact with hstar | ⟨hlast, hlongest⟩
  · exact Split.covers_remainder_of_noStar hcut hstar hname
  · refine Split.covers_remainder_of_longest hstart hcut hlast (fun segment hlead hcovers => ?_)
      hname
    by_contra hlt
    refine hlongest ⟨String.ofList segment, ?_, ?_, ?_⟩
    · rwa [String.toList_ofList]
    · rw [← String.length_toList, String.length_ofList]
      exact Nat.lt_of_not_le hlt
    · rw [Glob.matchesName_eq_covers, String.toList_ofList]
      exact (covers_iff _ _).mpr hcovers

theorem matchesName_append_iff_of_exact_two_stars :
    (Glob.matchesName "a*b*c" ("ab" ++ "bc") = true ↔ Glob.matchesName "*c" "bc" = true) ∧
      (Glob.matchesName "..a*" ("x_" ++ "ab") = true ↔ Glob.matchesName "a*" "ab" = true) := by
  have hstars : split? "ab" "a*b*c" = some ("a*b*", "*c") := by decide
  have hdots : split? "x_" "..a*" = some ("..", "a*") := by decide
  refine ⟨matchesName_append_iff_of_exact (by decide) hstars (.inr ⟨by decide, ?_⟩) "bc",
    matchesName_append_iff_of_exact (by decide) hdots (.inl (by decide)) "ab"⟩
  rintro ⟨segment, hlead, hlong, hmatches⟩
  have hwhole : segment.toList = "a*b*c".toList := by
    refine hlead.eq_of_length (Nat.le_antisymm hlead.length_le ?_)
    rw [String.length_toList]
    exact hlong
  rw [Glob.matchesName_eq_covers, hwhole] at hmatches
  exact absurd hmatches (by decide)

end Decompose

end MetastoreFederation.Pattern
