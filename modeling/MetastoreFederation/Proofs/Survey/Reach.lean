import Mathlib.Data.List.Nodup
import MetastoreFederation.Proofs.Pattern.Shares
import MetastoreFederation.Proofs.Pattern.Stripping
import MetastoreFederation.Survey

/-!
What of a database pattern reaches a metastore. A metastore with a prefix is asked for its share of
the pattern; the share of a name is what follows the prefix in it, and the share of a star is the
star, but for a prefix that is a star itself.
-/

set_option autoImplicit false
set_option relaxedAutoImplicit false

namespace MetastoreFederation

open Metastore Request

namespace Pattern.Decompose

open Glob (Covers covers_iff)
open Split (cut?)

variable {prefixes : List String} {pattern start part name : String}

/-- The pattern for the names behind a prefix: the whole one where it goes to everybody as it
stands, else the share. -/
def partFor? (prefixes : List String) (pattern start : String) : Option String :=
  if isPassthrough pattern then some pattern else share? prefixes pattern start

theorem lookup_filterMap_map {β : Type} (f : String → Option β) (l : List String) (a : String) :
    (l.filterMap fun x => (f x).map fun y => (x, y)).lookup a = if a ∈ l then f a else none := by
  induction l with
  | nil => rfl
  | cons x l ih =>
    rw [List.filterMap_cons]
    by_cases ha : a = x
    · subst ha
      cases hf : f a with
      | none => simp [hf, ih]
      | some y => simp
    · have hne : (a == x) = false := beq_false_of_ne ha
      cases hf : f x with
      | none => simp [ih, ha]
      | some y => simp [ih, ha, List.lookup_cons, hne]

theorem lookup_decompose (hstart : start ∈ prefixes) :
    (decompose prefixes pattern).lookup start = partFor? prefixes pattern start := by
  have hparts : decompose prefixes pattern = prefixes.eraseDups.filterMap fun start =>
      (partFor? prefixes pattern start).map fun part => (start, part) := by
    refine List.filterMap_congr fun start _ => ?_
    unfold partFor?
    split_ifs <;> rfl
  rw [hparts, lookup_filterMap_map, if_pos (List.mem_eraseDups.mpr hstart)]

/-- A clause without wildcards is a name, and its share is what follows the prefix. -/
theorem exists_matchesSome_share_iff (hstrip : Qualifier.strip name = name)
    (hstar : '*' ∉ name.toList) (hdot : '.' ∉ name.toList) (hbar : '|' ∉ name.toList)
    (hstart : start ∈ prefixes) (database : String) :
    (∃ part, share? prefixes name start = some part ∧ matchesSome part database = true) ↔
      start ++ database = name := by
  have hclauses : clauses name = [name.toList] := List.splitOn_eq_singleton hbar
  constructor
  · rintro ⟨part, hshare, hmatch⟩
    obtain ⟨remainder, hmem, hcovers⟩ := matchesSome_iff.mp hmatch
    rw [clauses_of_share?_eq_some hshare, hstrip] at hmem
    obtain ⟨-, clause, hclause, c, hc, rfl⟩ := mem_shares.mp hmem
    rw [hclauses, List.mem_singleton] at hclause
    subst hclause
    have hall := (Split.covers_append_of_cut? hc hcovers).eq_of_literal hstar hdot
    rw [← String.toList_inj, String.toList_append, hall]
  · intro hname
    have hcut : cut? start.toList name.toList = some ⟨start.toList, database.toList⟩ := by
      unfold cut?
      rw [← hname, String.toList_append,
        List.isPrefixOf?_eq_some_iff_append_eq.mpr rfl]
    have hmem : database.toList ∈ shares prefixes (Qualifier.strip name) start := by
      rw [hstrip]
      refine mem_shares.mpr ⟨hstart, name.toList, ?_, _, hcut, rfl⟩
      rw [hclauses]
      exact List.mem_singleton_self _
    cases hshare : share? prefixes name start with
    | none =>
      rw [share?_eq_none_iff.mp hshare] at hmem
      exact absurd hmem List.not_mem_nil
    | some part =>
      refine ⟨part, rfl, matchesSome_iff.mpr ⟨database.toList, ?_, .refl _⟩⟩
      rwa [clauses_of_share?_eq_some hshare]

theorem matchesSome_literal_iff (hstar : '*' ∉ name.toList) (hdot : '.' ∉ name.toList)
    (hbar : '|' ∉ name.toList) (database : String) :
    matchesSome name database = true ↔ database = name := by
  have hclauses : clauses name = [name.toList] := List.splitOn_eq_singleton hbar
  rw [matchesSome_iff, hclauses]
  simp only [List.mem_singleton, exists_eq_left]
  constructor
  · intro hcovers
    exact String.toList_inj.mp (hcovers.eq_of_literal hstar hdot)
  · rintro rfl
    exact .refl _

/-- A star is cut to a star behind every prefix but the one that is a star. -/
theorem remainder_star (start : List Char) :
    (cut? start ['*']).map Split.Cut.remainder = some (if start = ['*'] then [] else ['*']) := by
  unfold cut?
  cases hprefix : start.isPrefixOf? ['*'] with
  | some rest =>
    have hstart := List.append_eq_of_isPrefixOf?_eq_some hprefix
    rcases List.append_eq_singleton_iff.mp hstart with ⟨rfl, rfl⟩ | ⟨rfl, rfl⟩
    · rfl
    · rfl
  | none =>
    have hsegments : Split.segments ['*'] = [['*']] := by decide
    have hcovers : Glob.covers ['*'] start = true := by
      refine (covers_iff _ _).mpr ?_
      have hfits : Glob.Fits '*' start := by simp [Glob.Fits]
      have hwhole := Covers.cons hfits Covers.nil
      rwa [List.append_nil] at hwhole
    have hne : start ≠ ['*'] := by
      rintro rfl
      cases hprefix
    simp [hsegments, hcovers, hne, Split.remainderAfter]

/-- The share of a star, where no prefix is listed twice. -/
theorem share?_of_strip_eq_star (hstrip : Qualifier.strip pattern = matchAll)
    (hnodup : prefixes.Nodup) (hstart : start ∈ prefixes) :
    share? prefixes pattern start = some (if start = matchAll then "" else matchAll) := by
  have hlisted : prefixes.filter (· == start) = [start] := by
    rw [List.filter_beq, List.count_eq_one_of_mem hnodup hstart]
    rfl
  have hclauses : clauses matchAll = [['*']] := by decide
  have hshares : shares prefixes matchAll start =
      [if start = matchAll then [] else ['*']] := by
    have hremainder := remainder_star start.toList
    have hsame : start.toList = ['*'] ↔ start = matchAll := by
      rw [← String.toList_inj]
      rfl
    simp only [hsame] at hremainder
    unfold shares
    rw [hclauses, hlisted]
    simp only [List.flatMap_cons, List.flatMap_nil, List.append_nil, List.filterMap_cons,
      List.filterMap_nil, hremainder]
  unfold share?
  rw [hstrip, hshares]
  split_ifs <;> rfl

end Pattern.Decompose

namespace Survey

open Pattern.Decompose (partFor?)

variable {κ α : Type} {s : Survey κ} {clients : κ → Client}

theorem reached_forwarded (hscope : s.scope = .forwarded) (pattern : String) :
    s.reached pattern = s.bindings.map fun b => (b, pattern) := by
  unfold reached
  rw [hscope]

theorem reached_decomposed (hscope : s.scope = .decomposed) (pattern : String) :
    s.reached pattern = s.bindings.filterMap fun b =>
      (partFor? (s.bindings.map Binding.databasePrefix) pattern b.databasePrefix).map
        fun part => (b, part) := by
  unfold reached
  rw [hscope]
  refine List.filterMap_congr fun b hb => ?_
  rw [Pattern.Decompose.lookup_decompose (List.mem_map_of_mem hb)]

theorem mem_reached_of_forwarded (hscope : s.scope = .forwarded) {pattern part : String}
    {b : Binding κ} : (b, part) ∈ s.reached pattern ↔ b ∈ s.bindings ∧ part = pattern := by
  rw [reached_forwarded hscope, List.mem_map]
  constructor
  · rintro ⟨c, hc, heq⟩
    obtain ⟨rfl, rfl⟩ := Prod.mk.inj heq
    exact ⟨hc, rfl⟩
  · rintro ⟨hb, rfl⟩
    exact ⟨b, hb, rfl⟩

theorem mem_reached_of_decomposed (hscope : s.scope = .decomposed) {pattern part : String}
    {b : Binding κ} :
    (b, part) ∈ s.reached pattern ↔ b ∈ s.bindings ∧
      partFor? (s.bindings.map Binding.databasePrefix) pattern b.databasePrefix = some part := by
  rw [reached_decomposed hscope, List.mem_filterMap]
  constructor
  · rintro ⟨c, hc, heq⟩
    obtain ⟨_, hpart, heq⟩ := Option.map_eq_some_iff.mp heq
    obtain ⟨rfl, rfl⟩ := Prod.mk.inj heq
    exact ⟨hc, hpart⟩
  · rintro ⟨hb, hpart⟩
    exact ⟨b, hb, Option.map_eq_some_iff.mpr ⟨part, hpart, rfl⟩⟩

theorem mem_bindings_of_mem_reached {pattern part : String} {b : Binding κ}
    (h : (b, part) ∈ s.reached pattern) : b ∈ s.bindings := by
  cases hscope : s.scope with
  | forwarded => exact ((mem_reached_of_forwarded hscope).mp h).1
  | decomposed => exact ((mem_reached_of_decomposed hscope).mp h).1

theorem mem_items_iff {questions : List (Question κ α)} {item : α} :
    item ∈ (s.ask clients questions).items ↔
      ∃ q ∈ questions, ∃ time items, (s.target clients q).arrival? = some (time, items) ∧
        item ∈ items := by
  change item ∈ gather (questions.map (s.target clients)) ↔ _
  rw [(gather_perm _).mem_iff]
  simp only [List.mem_flatMap, List.mem_filterMap, List.mem_map, Prod.exists]
  constructor
  · rintro ⟨time, items, ⟨t, ⟨q, hq, rfl⟩, harrival⟩, hitem⟩
    exact ⟨q, hq, time, items, harrival, hitem⟩
  · rintro ⟨q, hq, time, items, harrival, hitem⟩
    exact ⟨time, items, ⟨_, ⟨q, hq, rfl⟩, harrival⟩, hitem⟩

theorem gather_singleton (t : Target α) : gather [t] = (t.arrival?.map Prod.snd).getD [] := by
  unfold gather
  cases harrival : t.arrival? with
  | none => simp [harrival]
  | some arrival => simp [harrival]

/-- A question that is answered in time contributes what is read of the answer. -/
theorem arrival?_of_answered {q : Question κ α} {time : Nat} {answer : q.call.Answer}
    (hcall : (clients q.binding.client).call q.call = .answered time (.ok answer))
    (hintime : time ≤ s.timeout + q.binding.definition.latency.toNat) :
    (s.target clients q).arrival? = some (time, q.read answer) := by
  unfold target Target.arrival?
  rw [hcall]
  exact if_pos hintime

end Survey

end MetastoreFederation
