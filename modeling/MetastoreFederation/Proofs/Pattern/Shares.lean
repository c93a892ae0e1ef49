import MetastoreFederation.Pattern.Decompose
import MetastoreFederation.Proofs.Pattern.Cut

/-!
The shares of a pattern. What the share of a prefix covers, the pattern covers with the prefix in
front, so no share brings in a name that was not asked for. A prefix without a share owns none of
the names that are asked for, but for clauses in which the search for a cut oversteps.
-/

set_option autoImplicit false
set_option relaxedAutoImplicit false

namespace MetastoreFederation.Pattern.Decompose

open Glob (Covers covers_iff)
open Split (cut? cut?_eq_none_iff_overstepped Overstepped)

theorem matchesSome_iff {pattern name : String} :
    matchesSome pattern name = true ↔ ∃ clause ∈ clauses pattern, Covers clause name.toList := by
  simp only [matchesSome, List.any_eq_true, covers_iff]

theorem separator_not_mem_of_mem_clauses {pattern : String} {clause : List Char}
    (h : clause ∈ clauses pattern) : '|' ∉ clause := by
  unfold clauses at h
  generalize pattern.toList = s at h
  induction s generalizing clause with
  | nil =>
    rw [List.splitOn_nil, List.mem_singleton] at h
    simp [h]
  | cons c s ih =>
    rw [List.splitOn_cons_eq_if_modifyHead] at h
    split_ifs at h with hc
    · rcases List.mem_cons.mp h with rfl | h
      · exact List.not_mem_nil
      · exact ih h
    · obtain ⟨first, others, heq⟩ := List.exists_cons_of_ne_nil (List.splitOn_ne_nil '|' s)
      rw [heq] at ih h
      rw [List.modifyHead_cons] at h
      rcases List.mem_cons.mp h with rfl | h
      · rw [List.mem_cons, not_or]
        exact ⟨fun hbar => hc (beq_iff_eq.mpr hbar.symm), ih List.mem_cons_self⟩
      · exact ih (List.mem_cons_of_mem _ h)

theorem clauses_ofClauses {parts : List (List Char)} (hne : parts ≠ [])
    (h : ∀ part ∈ parts, '|' ∉ part) : clauses (ofClauses parts) = parts := by
  rw [clauses, ofClauses, String.toList_ofList]
  exact List.splitOn_intercalate '|' h hne

theorem mem_shares {prefixes : List String} {pattern start : String} {part : List Char} :
    part ∈ shares prefixes pattern start ↔ start ∈ prefixes ∧
      ∃ clause ∈ clauses pattern, ∃ c, cut? start.toList clause = some c ∧ c.remainder = part := by
  simp only [shares, List.mem_flatMap, List.mem_filterMap, List.mem_filter, beq_iff_eq,
    Option.map_eq_some_iff]
  constructor
  · rintro ⟨clause, hclause, p, ⟨hp, rfl⟩, c, hc, rfl⟩
    exact ⟨hp, clause, hclause, c, hc, rfl⟩
  · rintro ⟨hp, clause, hclause, c, hc, rfl⟩
    exact ⟨clause, hclause, start, ⟨hp, rfl⟩, c, hc, rfl⟩

theorem share?_eq_none_iff {prefixes : List String} {pattern start : String} :
    share? prefixes pattern start = none ↔
      shares prefixes (Qualifier.strip pattern) start = [] := by
  unfold share?
  split <;> simp_all

/-- The alternatives of a share are the remainders of the clauses that were cut. -/
theorem clauses_of_share?_eq_some {prefixes : List String} {pattern start part : String}
    (h : share? prefixes pattern start = some part) :
    clauses part = shares prefixes (Qualifier.strip pattern) start := by
  unfold share? at h
  split at h
  · cases h
  · next hne =>
    obtain rfl := Option.some.inj h
    refine clauses_ofClauses hne fun r hr => ?_
    obtain ⟨-, clause, hclause, c, hc, rfl⟩ := mem_shares.mp hr
    intro hmem
    exact separator_not_mem_of_mem_clauses hclause
      ((Split.remainder_suffix_of_cut? hc).subset hmem)

theorem mem_decompose_iff {prefixes : List String} {pattern start part : String}
    (hpass : isPassthrough pattern = false) :
    (start, part) ∈ decompose prefixes pattern ↔
      start ∈ prefixes ∧ share? prefixes pattern start = some part := by
  simp [decompose, hpass, List.mem_filterMap]

/-- A prefix is left out exactly if each clause covers no name behind it or is overstepped. -/
theorem not_listed_iff {prefixes : List String} {pattern start : String}
    (hpass : isPassthrough pattern = false) (hstart : start ∈ prefixes) :
    start ∉ (decompose prefixes pattern).map Prod.fst ↔
      ∀ clause ∈ clauses (Qualifier.strip pattern),
        (∀ name, ¬ Covers clause (start.toList ++ name)) ∨ Overstepped start.toList clause := by
  have hlisted : start ∈ (decompose prefixes pattern).map Prod.fst ↔
      ∃ part, share? prefixes pattern start = some part := by
    simp only [List.mem_map, Prod.exists, exists_and_right, exists_eq_right,
      mem_decompose_iff hpass, hstart, true_and]
  rw [hlisted, ← Option.isSome_iff_exists, Option.not_isSome_iff_eq_none, share?_eq_none_iff,
    List.eq_nil_iff_forall_not_mem]
  simp only [← cut?_eq_none_iff_overstepped]
  constructor
  · intro h clause hclause
    cases hcut : cut? start.toList clause with
    | none => rfl
    | some c => exact absurd (mem_shares.mpr ⟨hstart, clause, hclause, c, hcut, rfl⟩) (h _)
  · intro h part hpart
    obtain ⟨-, clause, hclause, c, hc, -⟩ := mem_shares.mp hpart
    rw [h clause hclause] at hc
    cases hc

/-- A share invents no match: what it covers, the pattern covers behind the prefix. -/
theorem matchesSome_append_of_mem_decompose {prefixes : List String}
    {pattern start part name : String} (hpass : isPassthrough pattern = false)
    (hpart : (start, part) ∈ decompose prefixes pattern) (hname : matchesSome part name = true) :
    matchesSome (Qualifier.strip pattern) (start ++ name) = true := by
  obtain ⟨-, hshare⟩ := (mem_decompose_iff hpass).mp hpart
  obtain ⟨remainder, hmem, hcovers⟩ := matchesSome_iff.mp hname
  rw [clauses_of_share?_eq_some hshare] at hmem
  obtain ⟨-, clause, hclause, c, hc, rfl⟩ := mem_shares.mp hmem
  refine matchesSome_iff.mpr ⟨clause, hclause, ?_⟩
  rw [String.toList_append]
  exact Split.covers_append_of_cut? hc hcovers

theorem matchesSome_append_of_shared_star :
    isPassthrough "@hive#w*_*db|x" = false ∧
    ("waggle_", "*db") ∈ decompose ["bee_", "waggle_"] "@hive#w*_*db|x" ∧
    matchesSome "*db" "sales_db" = true ∧
    matchesSome (Qualifier.strip "@hive#w*_*db|x") ("waggle_" ++ "sales_db") = true :=
  have hpass : isPassthrough "@hive#w*_*db|x" = false := by decide
  have hpart : ("waggle_", "*db") ∈ decompose ["bee_", "waggle_"] "@hive#w*_*db|x" := by decide
  have hname : matchesSome "*db" "sales_db" = true := by decide
  ⟨hpass, hpart, hname, matchesSome_append_of_mem_decompose hpass hpart hname⟩

/-- A prefix without a share owns a name that is asked for exactly if the search for a cut
oversteps in one of the clauses. -/
theorem exists_matchesSome_iff_overstepped {prefixes : List String} {pattern start : String}
    (hpass : isPassthrough pattern = false) (hstart : start ∈ prefixes)
    (hnot : start ∉ (decompose prefixes pattern).map Prod.fst) :
    (∃ name, matchesSome (Qualifier.strip pattern) (start ++ name) = true) ↔
      ∃ clause ∈ clauses (Qualifier.strip pattern), Overstepped start.toList clause := by
  have hcases := (not_listed_iff hpass hstart).mp hnot
  constructor
  · rintro ⟨name, hname⟩
    obtain ⟨clause, hclause, hcovers⟩ := matchesSome_iff.mp hname
    rw [String.toList_append] at hcovers
    exact ⟨clause, hclause, (hcases clause hclause).resolve_left fun h => h _ hcovers⟩
  · rintro ⟨clause, hclause, hover⟩
    obtain ⟨name, hcovers⟩ := hover.covers
    refine ⟨String.ofList name, matchesSome_iff.mpr ⟨clause, hclause, ?_⟩⟩
    rwa [String.toList_append, String.toList_ofList]

theorem exists_matchesSome_iff_overstepped_three_dots :
    isPassthrough "a...x*|zz" = false ∧ "abc" ∈ ["ab", "abc"] ∧
    "abc" ∉ (decompose ["ab", "abc"] "a...x*|zz").map Prod.fst ∧
    ((∃ name, matchesSome (Qualifier.strip "a...x*|zz") ("abc" ++ name) = true) ↔
      ∃ clause ∈ clauses (Qualifier.strip "a...x*|zz"), Overstepped "abc".toList clause) :=
  have hpass : isPassthrough "a...x*|zz" = false := by decide
  have hstart : "abc" ∈ ["ab", "abc"] := by decide
  have hnot : "abc" ∉ (decompose ["ab", "abc"] "a...x*|zz").map Prod.fst := by decide
  ⟨hpass, hstart, hnot, exists_matchesSome_iff_overstepped hpass hstart hnot⟩

/-- Of two dots in a row the search tries the segments before and behind both, not the one between
them, so the names behind `ab` are lost. -/
theorem not_listed_between_two_dots :
    isPassthrough "a..x" = false ∧ "ab" ∈ ["ab"] ∧
    "ab" ∉ (decompose ["ab"] "a..x").map Prod.fst ∧
    matchesSome (Qualifier.strip "a..x") ("ab" ++ "cx") = true := by
  decide

end MetastoreFederation.Pattern.Decompose
