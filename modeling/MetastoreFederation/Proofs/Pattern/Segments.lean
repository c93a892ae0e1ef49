import Mathlib.Algebra.Group.Nat.Even
import Mathlib.Data.List.Basic
import Mathlib.Logic.Relation
import MetastoreFederation.Pattern.Split

/-!
Which leading segments of a clause are tried for a cut. Segments are written last character first,
so a shorter one is a suffix. Every segment that ends with a star is tried. Of those without a star
that still hold a dot, every second one is passed over along a row of dots.
-/

set_option autoImplicit false
set_option relaxedAutoImplicit false

namespace MetastoreFederation.Pattern.Split

open Glob (isWildcard)

/-- The segment without a wildcard at its end, where the next wildcard is looked for. -/
def trunk : List Char → List Char
  | [] => []
  | c :: rest => if isWildcard c then rest else c :: rest

theorem suffix_trunk_of_ne {x r : List Char} (h : x <:+ r) (hne : x ≠ r) : x <:+ trunk r := by
  cases r with
  | nil => exact absurd (List.suffix_nil.mp h) hne
  | cons c rest =>
    have hrest : x <:+ rest := (List.suffix_cons_iff.mp h).resolve_left hne
    rw [trunk]
    split_ifs
    · exact hrest
    · exact hrest.trans (List.suffix_cons c rest)

theorem shorter?_eq (r : List Char) :
    shorter? r = match (trunk r).find? isWildcard with
      | some '*' => some ((trunk r).dropWhile fun c => !isWildcard c)
      | some _ => some (trunk r).tail
      | none => none := by
  cases r <;> rfl

/-- What comes after a segment depends on the last wildcard before its end. -/
theorem shorter?_cases (r : List Char) :
    (∃ literals rest, trunk r = literals ++ '*' :: rest ∧
      (∀ c ∈ literals, isWildcard c = false) ∧ shorter? r = some ('*' :: rest)) ∨
    (∃ literals rest, trunk r = literals ++ '.' :: rest ∧
      (∀ c ∈ literals, isWildcard c = false) ∧ shorter? r = some (trunk r).tail) ∨
    ((∀ c ∈ trunk r, isWildcard c = false) ∧ shorter? r = none) := by
  rw [shorter?_eq]
  cases hfind : (trunk r).find? isWildcard with
  | none =>
    refine .inr (.inr ⟨fun c hc => ?_, rfl⟩)
    simpa using List.find?_eq_none.mp hfind c hc
  | some d =>
    obtain ⟨hd, literals, rest, htrunk, hlit⟩ := List.find?_eq_some_iff_append.mp hfind
    have hlit' : ∀ c ∈ literals, isWildcard c = false := fun c hc => by simpa using hlit c hc
    have hcases : d = '*' ∨ d = '.' := by simpa [isWildcard] using hd
    rcases hcases with rfl | rfl
    · refine .inl ⟨literals, rest, htrunk, hlit', ?_⟩
      have hdrop : (trunk r).dropWhile (fun c => !isWildcard c) = '*' :: rest := by
        rw [htrunk, List.dropWhile_append_of_pos (fun c hc => by simp [hlit' c hc])]
        rfl
      simp only [hdrop]
    · exact .inr (.inl ⟨literals, rest, htrunk, hlit', rfl⟩)

theorem suffix_tail_of_shorter? {r x : List Char} (h : shorter? r = some x) : x <:+ r.tail := by
  rcases shorter?_cases r with ⟨literals, rest, htrunk, hlit, hs⟩ | ⟨_, _, _, _, hs⟩ | ⟨_, hs⟩
  · obtain rfl : '*' :: rest = x := Option.some.inj (hs.symm.trans h)
    cases r with
    | nil => cases hs
    | cons c r =>
      rw [trunk] at htrunk
      split_ifs at htrunk with hc
      · exact ⟨literals, htrunk.symm⟩
      · cases literals with
        | nil => simp [(List.cons.inj htrunk).1, isWildcard] at hc
        | cons d literals => exact ⟨literals, (List.cons.inj htrunk).2.symm⟩
  · obtain rfl := Option.some.inj (hs.symm.trans h)
    cases r with
    | nil => cases hs
    | cons c r =>
      rw [trunk]
      split_ifs
      · exact List.tail_suffix r
      · exact List.suffix_rfl
  · rw [hs] at h
    cases h

theorem length_lt_of_shorter? {r x : List Char} (h : shorter? r = some x) :
    x.length < r.length := by
  have hle := (suffix_tail_of_shorter? h).length_le
  cases r with
  | nil => cases h
  | cons c r =>
    rw [List.tail_cons] at hle
    rw [List.length_cons]
    omega

/-- The segment `x` comes up in the search that starts with `r`. -/
def Tried : List Char → List Char → Prop :=
  Relation.ReflTransGen fun r x => shorter? r = some x

theorem Tried.suffix {r x : List Char} (h : Tried r x) : x <:+ r := by
  induction h with
  | refl => exact List.suffix_rfl
  | tail _ hstep ih =>
    exact (suffix_tail_of_shorter? hstep).trans ((List.tail_suffix _).trans ih)

theorem mem_segmentsFrom_iff {fuel : Nat} {r x : List Char} (hfuel : r.length < fuel) :
    x ∈ segmentsFrom fuel r ↔ Tried r x := by
  induction fuel generalizing r with
  | zero => omega
  | succ fuel ih =>
    rw [segmentsFrom, List.mem_cons, Tried, Relation.ReflTransGen.cases_head_iff, eq_comm]
    refine or_congr_right ?_
    cases hnext : shorter? r with
    | none => simp
    | some next =>
      have hlt := length_lt_of_shorter? hnext
      simpa [Tried] using ih (show next.length < fuel by omega)

theorem mem_segments_iff {clause x : List Char} :
    x ∈ segments clause ↔ Tried clause.reverse x.reverse := by
  have hfuel : clause.reverse.length < clause.length + 1 := by simp
  rw [← mem_segmentsFrom_iff hfuel, segments, List.mem_map]
  constructor
  · rintro ⟨y, hy, rfl⟩
    rwa [List.reverse_reverse]
  · intro h
    exact ⟨x.reverse, h, List.reverse_reverse x⟩

/-- A segment is tried, or the search leaps over it from the last longer one. -/
theorem tried_or_passed {r x : List Char} (h : x <:+ r) :
    Tried r x ∨ ∃ y, Tried r y ∧ x <:+ trunk y ∧ ∀ z, shorter? y = some z → ¬ x <:+ z := by
  induction hn : r.length using Nat.strong_induction_on generalizing r with
  | h n ih =>
    subst hn
    by_cases hne : x = r
    · exact .inl (hne ▸ .refl)
    by_cases hnext : ∃ z, shorter? r = some z ∧ x <:+ z
    · obtain ⟨z, hz, hxz⟩ := hnext
      rcases ih z.length (length_lt_of_shorter? hz) hxz rfl with hx | ⟨y, hy, hpassed⟩
      · exact .inl (.head hz hx)
      · exact .inr ⟨y, .head hz hy, hpassed⟩
    · refine .inr ⟨r, .refl, suffix_trunk_of_ne h hne, fun z hz hxz => hnext ⟨z, hz, hxz⟩⟩

private theorem eq_append_of_suffix {x front back : List Char} (h : x <:+ front ++ back)
    (hx : ¬ x <:+ back) : ∃ y, x = y ++ back ∧ y <:+ front ∧ y ≠ [] := by
  rcases List.suffix_or_suffix_of_suffix h (List.suffix_append front back) with h' | ⟨y, rfl⟩
  · exact absurd h' hx
  · refine ⟨y, rfl, ?_, ?_⟩
    · obtain ⟨w, hw⟩ := h
      rw [← List.append_assoc] at hw
      exact ⟨w, List.append_cancel_right hw⟩
    · rintro rfl
      exact hx List.suffix_rfl

/-- A segment that is leapt over ends with literal characters behind a star, or lies just in front
of the wildcard that is given up and has a dot as its last wildcard, or is literal. -/
private theorem passed_cases {x y : List Char} (hx : x <:+ trunk y)
    (hpassed : ∀ z, shorter? y = some z → ¬ x <:+ z) :
    (∃ c front rest, x = c :: front ++ '*' :: rest ∧ isWildcard c = false) ∨
    (x = trunk y ∧ ∃ literals rest, trunk y = literals ++ '.' :: rest ∧
      ∀ c ∈ literals, isWildcard c = false) ∨
    ∀ c ∈ x, isWildcard c = false := by
  rcases shorter?_cases y with ⟨literals, rest, htrunk, hlit, hs⟩ |
    ⟨literals, rest, htrunk, hlit, hs⟩ | ⟨hlit, -⟩
  · rw [htrunk] at hx
    obtain ⟨front, rfl, hfront, hne⟩ := eq_append_of_suffix hx (hpassed _ hs)
    obtain ⟨c, front, rfl⟩ := List.exists_cons_of_ne_nil hne
    exact .inl ⟨c, front, rest, rfl, hlit c (hfront.subset List.mem_cons_self)⟩
  · refine .inr (.inl ⟨?_, literals, rest, htrunk, hlit⟩)
    have htail := hpassed _ hs
    cases ht : trunk y with
    | nil => rw [ht] at htrunk; simp at htrunk
    | cons c t =>
      rw [ht] at hx htail
      exact (List.suffix_cons_iff.mp hx).resolve_right htail
  · exact .inr (.inr fun c hc => hlit c (hx.subset hc))

/-- Every segment that ends with a star is tried. -/
theorem tried_of_star {r x : List Char} (h : '*' :: x <:+ r) : Tried r ('*' :: x) := by
  rcases tried_or_passed h with h | ⟨y, -, hy, hpassed⟩
  · exact h
  exfalso
  rcases passed_cases hy hpassed with ⟨c, front, rest, heq, hc⟩ |
    ⟨heq, literals, rest, htrunk, hlit⟩ | hlit
  · rw [← (List.cons.inj heq).1] at hc
    simp [isWildcard] at hc
  · rw [htrunk] at heq
    cases literals with
    | nil => simp at heq
    | cons c literals =>
      have hc := hlit c List.mem_cons_self
      rw [← (List.cons.inj heq).1] at hc
      simp [isWildcard] at hc
  · have := hlit '*' List.mem_cons_self
    simp [isWildcard] at this

/-- A segment with a dot and no star is tried, or the one that is longer by a wildcard is. -/
theorem tried_or_tried_cons {r x : List Char} (h : x <:+ r) (hdot : '.' ∈ x) (hstar : '*' ∉ x) :
    Tried r x ∨ ∃ c, isWildcard c = true ∧ Tried r (c :: x) := by
  rcases tried_or_passed h with h | ⟨y, hy, hx, hpassed⟩
  · exact .inl h
  rcases passed_cases hx hpassed with ⟨c, front, rest, rfl, -⟩ | ⟨rfl, -⟩ | hlit
  · simp at hstar
  · cases y with
    | nil => exact .inl hy
    | cons c y =>
      rw [trunk]
      split_ifs with hc
      · exact .inr ⟨c, hc, hy⟩
      · exact .inl hy
  · have := hlit '.' hdot
    simp [isWildcard] at this

/-- Behind a wildcard that is given up, the search leaps over a segment whose last wildcard is a
dot. -/
theorem not_tried_of_tried_cons {r x : List Char} {c : Char} (hc : isWildcard c = true)
    (h : Tried r (c :: x)) (hdot : '.' ∈ x) (hstar : '*' ∉ x) : ¬ Tried r x := by
  have htrunk : trunk (c :: x) = x := by rw [trunk, if_pos hc]
  have hnext : shorter? (c :: x) = some x.tail := by
    rcases shorter?_cases (c :: x) with ⟨literals, rest, heq, -⟩ | ⟨_, _, _, _, hs⟩ | ⟨hlit, -⟩
    · rw [htrunk] at heq
      simp [heq] at hstar
    · rw [hs, htrunk]
    · have := hlit '.' (htrunk.symm ▸ hdot)
      simp [isWildcard] at this
  have hlen := List.length_pos_of_mem hdot
  intro hx
  have hunique : Relator.RightUnique fun r x : List Char => shorter? r = some x :=
    fun _ _ _ h₁ h₂ => Option.some.inj (h₁.symm.trans h₂)
  rcases Relation.ReflTransGen.total_of_right_unique hunique h hx with hdown | hup
  · rcases Relation.ReflTransGen.cases_head hdown with heq | ⟨z, hz, hzx⟩
    · have := congrArg List.length heq
      simp at this
    · obtain rfl := Option.some.inj (hnext.symm.trans hz)
      have := (Tried.suffix hzx).length_le
      rw [List.length_tail] at this
      omega
  · have := (Tried.suffix hup).length_le
    rw [List.length_cons] at this
    omega

theorem tried_iff_not_tried_cons {r x : List Char} {c : Char} (h : c :: x <:+ r) (hdot : '.' ∈ x)
    (hstar : '*' ∉ x) : Tried r x ↔ ¬ (isWildcard c = true ∧ Tried r (c :: x)) := by
  constructor
  · rintro hx ⟨hc, ht⟩
    exact not_tried_of_tried_cons hc ht hdot hstar hx
  · intro hnot
    rcases tried_or_tried_cons ((List.suffix_cons c x).trans h) hdot hstar with hx | ⟨d, hd, ht⟩
    · exact hx
    · have heq : c :: x = d :: x := by
        rcases List.suffix_or_suffix_of_suffix h ht.suffix with h' | h'
        · exact h'.eq_of_length rfl
        · exact (h'.eq_of_length rfl).symm
      obtain rfl := (List.cons.inj heq).1
      exact absurd ⟨hd, ht⟩ hnot

/-- The length of the row of dots at the start of a text, a star right behind them counted in. -/
def dotRow : List Char → Nat
  | [] => 0
  | c :: s => if c = '.' then dotRow s + 1 else if c = '*' then 1 else 0

/-- Of the segments with a dot and no star, those are tried behind which the row of dots is even. -/
theorem tried_iff_even_dotRow {x ahead : List Char} (hdot : '.' ∈ x) (hstar : '*' ∉ x) :
    Tried (ahead.reverse ++ x) x ↔ Even (dotRow ahead) := by
  induction ahead generalizing x with
  | nil => exact iff_of_true .refl (by simp [dotRow])
  | cons c ahead ih =>
    have hcons : (c :: ahead).reverse ++ x = ahead.reverse ++ c :: x := by simp
    have hsuffix : c :: x <:+ ahead.reverse ++ c :: x := List.suffix_append _ _
    rw [hcons, tried_iff_not_tried_cons hsuffix hdot hstar]
    by_cases hd : c = '.'
    · subst hd
      have hrest := @ih ('.' :: x) List.mem_cons_self (by simpa using hstar)
      rw [hrest, dotRow, if_pos rfl, Nat.even_add_one]
      simp [isWildcard]
    · rw [dotRow, if_neg hd]
      by_cases hs : c = '*'
      · subst hs
        simp [isWildcard, tried_of_star hsuffix]
      · simp [isWildcard, hd, hs]

theorem snoc_star_mem_segments (front back : List Char) :
    front ++ ['*'] ∈ segments (front ++ '*' :: back) := by
  rw [mem_segments_iff]
  have hsuffix : '*' :: front.reverse <:+ (front ++ '*' :: back).reverse := by simp
  simpa using tried_of_star hsuffix

theorem mem_segments_iff_even_dotRow {segment ahead : List Char} (hdot : '.' ∈ segment)
    (hstar : '*' ∉ segment) : segment ∈ segments (segment ++ ahead) ↔ Even (dotRow ahead) := by
  rw [mem_segments_iff, List.reverse_append]
  exact tried_iff_even_dotRow (List.mem_reverse.mpr hdot) (mt List.mem_reverse.mp hstar)

end MetastoreFederation.Pattern.Split
