import MetastoreFederation.Proofs.Metastore.Permission
import MetastoreFederation.Proofs.Regex.Entries
import MetastoreFederation.Proofs.Routing.Effects

/-!
Which databases may be written by a whitelist, and which tables are visible by table rules: those
whose whole names an entry matches, unless an entry closes the group it is put in. Such an entry is
accepted without being an expression on its own.
-/

set_option autoImplicit false
set_option relaxedAutoImplicit false

namespace MetastoreFederation.Metastore

open Text
open Regex (Lists ListsWholeNames MatchesAlone ClosesGroup parse?)

theorem Gate.isListed_iff {policy : Policy} {whitelist : List String} {g : Gate}
    (h : make? policy whitelist = some g) {created : List String} {database : String} :
    g.isListed created database = true ↔ (∃ text ∈ whitelist, Lists text database) ∨
      ∃ name ∈ created, sameFolded name database = true := by
  unfold isListed
  rw [Bool.or_eq_true, any_whitelist_iff h, List.any_eq_true (l := created)]

namespace TableRule

variable {rule : TableRule} {rules : List TableRule} {filters : List TableFilter}
  {database table : String}

/-- The rule is for the database, in any case of its letters. -/
def IsFor (rule : TableRule) (database : String) : Prop :=
  Lowercase.lower rule.database = Lowercase.lower database

/-- An entry of the rule lists the table. -/
def Shows (rule : TableRule) (table : String) : Prop := ∃ text ∈ rule.tables, Lists text table

theorem shows_iff {f : TableFilter} (h : rule.filter? = some f) :
    f.tables.any (fun e => e.isMatch table) = true ↔ rule.Shows table := by
  obtain ⟨tables, htables, rfl⟩ := Option.map_eq_some_iff.mp h
  exact mapM_parseEntry?_iff htables

theorem isFor_iff {f : TableFilter} (h : rule.filter? = some f) :
    (f.database == Lowercase.lower database) = true ↔ rule.IsFor database := by
  obtain ⟨tables, -, rfl⟩ := Option.map_eq_some_iff.mp h
  exact beq_iff_eq

/-- What holds of a filter just where it holds of its rule holds of some filter just where it holds
of some rule. -/
theorem exists_filter_iff {p : TableFilter → Prop} {q : TableRule → Prop}
    (h : rules.mapM filter? = some filters)
    (hiff : ∀ rule f, rule.filter? = some f → (p f ↔ q rule)) :
    (∃ f ∈ filters, p f) ↔ ∃ rule ∈ rules, q rule := by
  rw [exists_mem_iff_of_mapM h]
  refine exists_congr fun rule => and_congr_right fun hmem => ?_
  obtain ⟨f, hf⟩ := Option.isSome_iff_exists.mp (isSome_of_mapM h rule hmem)
  simp only [hf, Option.some.injEq, exists_eq_left', hiff rule f hf]

end TableRule

namespace Binding

variable {κ : Type} {resolution : Resolution} {id : Nat} {entry : Entry} {client : κ}
  {b : Binding κ}

theorem showsTable_iff (h : make resolution id entry client = .ok b) {database table : String} :
    b.showsTable database table = true ↔
      (∀ rule ∈ b.definition.tableRules, ¬rule.IsFor database) ∨
        ∃ rule ∈ b.definition.tableRules, rule.IsFor database ∧ rule.Shows table := by
  obtain ⟨gate, filters, -, hfilters, rfl⟩ := Routing.make_eq_ok_iff.mp h
  have hfor : (∃ f ∈ filters, (f.database == Lowercase.lower database) = true) ↔
      ∃ rule ∈ entry.definition.tableRules, rule.IsFor database :=
    TableRule.exists_filter_iff hfilters fun rule f hf => TableRule.isFor_iff hf
  have hshows : (∃ f ∈ filters, (f.database == Lowercase.lower database) = true ∧
        f.tables.any (fun e => e.isMatch table) = true) ↔
      ∃ rule ∈ entry.definition.tableRules, rule.IsFor database ∧ rule.Shows table :=
    TableRule.exists_filter_iff hfilters fun rule f hf =>
      and_congr (TableRule.isFor_iff hf) (TableRule.shows_iff hf)
  unfold showsTable
  simp only [Bool.or_eq_true, List.isEmpty_iff, List.filter_eq_nil_iff,
    List.any_eq_true (l := List.filter _ _), List.mem_filter, and_assoc]
  refine or_congr ?_ hshows
  have hnone := not_congr hfor
  simp only [not_exists, not_and] at hnone
  exact hnone

theorem listsWholeNames_of_gate {policy : Policy} {whitelist : List String} {g : Gate}
    (h : Gate.make? policy whitelist = some g) :
    ∀ text ∈ whitelist, ListsWholeNames text ↔ ¬ClosesGroup text := by
  intro text htext
  obtain ⟨exprs, hexprs, -⟩ := Option.map_eq_some_iff.mp h
  obtain ⟨e, he⟩ := Option.isSome_iff_exists.mp (isSome_of_mapM hexprs text htext)
  exact Regex.listsWholeNames_iff he

theorem listsWholeNames_of_rule (h : make resolution id entry client = .ok b) :
    ∀ rule ∈ b.definition.tableRules, ∀ text ∈ rule.tables,
      ListsWholeNames text ↔ ¬ClosesGroup text := by
  intro rule hrule text htext
  obtain ⟨gate, filters, -, hfilters, rfl⟩ := Routing.make_eq_ok_iff.mp h
  obtain ⟨f, hf⟩ := Option.isSome_iff_exists.mp (isSome_of_mapM hfilters rule hrule)
  obtain ⟨exprs, hexprs, -⟩ := Option.map_eq_some_iff.mp hf
  obtain ⟨e, he⟩ := Option.isSome_iff_exists.mp (isSome_of_mapM hexprs text htext)
  exact Regex.listsWholeNames_iff he

/-- An accepted entry lists whole names just where it does not close the group it is put in. Where
no entry does, the whitelist and the table rules are about whole names. -/
theorem accepted_matches_whole_names {policy : Policy} {whitelist : List String} {g : Gate}
    (hgate : Gate.make? policy whitelist = some g)
    (hmake : make resolution id entry client = .ok b) :
    (∀ text ∈ whitelist, ListsWholeNames text ↔ ¬ClosesGroup text) ∧
      (∀ rule ∈ b.definition.tableRules, ∀ text ∈ rule.tables,
        ListsWholeNames text ↔ ¬ClosesGroup text) ∧
      ((∀ text ∈ whitelist, ¬ClosesGroup text) → ∀ created database,
        g.isListed created database = true ↔
          (∃ text ∈ whitelist, MatchesAlone text database) ∨
            ∃ name ∈ created, sameFolded name database = true) ∧
      ((∀ rule ∈ b.definition.tableRules, ∀ text ∈ rule.tables, ¬ClosesGroup text) →
        ∀ database table, b.showsTable database table = true ↔
          (∀ rule ∈ b.definition.tableRules, ¬rule.IsFor database) ∨
            ∃ rule ∈ b.definition.tableRules, rule.IsFor database ∧
              ∃ text ∈ rule.tables, MatchesAlone text table) := by
  have hlisted := listsWholeNames_of_gate hgate
  have htables := listsWholeNames_of_rule hmake
  refine ⟨hlisted, htables, fun hcloses created database => ?_, fun hcloses database table => ?_⟩
  · rw [Gate.isListed_iff hgate]
    refine or_congr_left (exists_congr fun text => and_congr_right fun htext => ?_)
    exact ((hlisted text htext).mpr (hcloses text htext)).lists_iff database
  · rw [showsTable_iff hmake]
    refine or_congr_right (exists_congr fun rule => and_congr_right fun hrule => ?_)
    refine and_congr_right fun _ => exists_congr fun text => and_congr_right fun htext => ?_
    exact ((htables rule hrule text htext).mpr (hcloses rule hrule text htext)).lists_iff table

/-- The hits of each year and those of all. -/
def hits : String := "(?x) hits_ ( \\d+ | all ) # by year\n"

/-- A primary whose logs may be written, and which shows the hits of its sales. -/
def hitPrimary : Definition :=
  { name := "primary", role := .primary, addresses := "a", policy := .writeListed
    whitelist := ["logs|tmp_.*"], tableRules := [⟨"Sales", [hits]⟩] }

theorem accepted_matches_whole_names_hits :
    ∃ g b, Gate.make? hitPrimary.policy hitPrimary.whitelist = some g ∧
      make .prefixed 0 ⟨0, hitPrimary⟩ () = .ok b ∧
      (ListsWholeNames "logs|tmp_.*" ∧ MatchesAlone "logs|tmp_.*" "TMP_1" ∧
        ¬MatchesAlone "logs|tmp_.*" "old_logs") ∧
      ListsWholeNames hits ∧ MatchesAlone hits "Hits_2024" ∧ ¬MatchesAlone hits "hits_of_all" := by
  have hcloses (text : String) (hparses : (parse? text).isSome) : ¬ClosesGroup text := by
    intro h
    rw [Regex.parse?_of_closesGroup h] at hparses
    cases hparses
  have hlogs : ¬ClosesGroup "logs|tmp_.*" := hcloses _ (by decide +kernel)
  have hhits : ¬ClosesGroup hits := hcloses _ (by decide +kernel)
  have hlists : (Gate.make? hitPrimary.policy hitPrimary.whitelist).map (fun g =>
      (g.isListed [] "TMP_1", g.isListed [] "old_logs")) = some (true, false) := by decide +kernel
  have hshows : (make .prefixed 0 ⟨0, hitPrimary⟩ ()).toOption.map (fun b =>
      (b.showsTable "SALES" "Hits_2024", b.showsTable "SALES" "hits_of_all")) =
        some (true, false) := by decide +kernel
  obtain ⟨g, hgate, hlists⟩ := Option.map_eq_some_iff.mp hlists
  cases hmake : make .prefixed 0 ⟨0, hitPrimary⟩ () with
  | error cause =>
    rw [hmake] at hshows
    cases hshows
  | ok b =>
    rw [hmake] at hshows
    obtain ⟨hshown, hhidden⟩ := Prod.mk.inj (Option.some.inj hshows)
    obtain ⟨hlisted, hunlisted⟩ := Prod.mk.inj hlists
    have hrules : b.definition.tableRules = [⟨"Sales", [hits]⟩] := by
      obtain ⟨_, _, -, -, rfl⟩ := Routing.make_eq_ok_iff.mp hmake
      rfl
    obtain ⟨hwhitelist, htables, hlist, hshow⟩ := accepted_matches_whole_names hgate hmake
    simp only [hrules, hitPrimary, List.mem_singleton, forall_eq, exists_eq_left]
      at hwhitelist htables hlist hshow
    have hsales : (⟨"Sales", [hits]⟩ : TableRule).IsFor "SALES" := by
      unfold TableRule.IsFor
      decide +kernel
    have hlist (database : String) :
        g.isListed [] database = true ↔ MatchesAlone "logs|tmp_.*" database := by
      simpa using hlist hlogs [] database
    have hshow (table : String) : b.showsTable "SALES" table = true ↔ MatchesAlone hits table := by
      simpa [hsales] using hshow hhits "SALES" table
    rw [hlist] at hlisted
    rw [hshow] at hshown
    rw [Bool.eq_false_iff, Ne, hlist] at hunlisted
    rw [Bool.eq_false_iff, Ne, hshow] at hhidden
    exact ⟨g, b, hgate, rfl, ⟨hwhitelist.mpr hlogs, hlisted, hunlisted⟩, htables.mpr hhits, hshown,
      hhidden⟩

/-- A primary with the halves of a whole. The group that the entry is put in ends between them. -/
def halvedPrimary : Definition :=
  { name := "primary", role := .primary, addresses := "a", policy := .writeListed
    whitelist := ["a)|(b"], tableRules := [⟨"sales", ["a)|(b"]⟩] }

/-- The halves are no expression on their own, but a name that starts with the first of them is
listed. -/
theorem not_listsWholeNames_of_halves :
    ∃ g b, Gate.make? halvedPrimary.policy halvedPrimary.whitelist = some g ∧
      make .prefixed 0 ⟨0, halvedPrimary⟩ () = .ok b ∧ parse? "a)|(b" = none ∧
      ¬ListsWholeNames "a)|(b" ∧ g.isListed [] "ax" = true ∧ b.showsTable "sales" "ax" = true := by
  have hlists : (Gate.make? halvedPrimary.policy halvedPrimary.whitelist).map (fun g =>
      g.isListed [] "ax") = some true := by decide +kernel
  have hshows : (make .prefixed 0 ⟨0, halvedPrimary⟩ ()).toOption.map (fun b =>
      b.showsTable "sales" "ax") = some true := by decide +kernel
  have hparses : (parse? "a)|(b").isSome = false := by decide +kernel
  obtain ⟨g, hgate, hlists⟩ := Option.map_eq_some_iff.mp hlists
  cases hmake : make .prefixed 0 ⟨0, halvedPrimary⟩ () with
  | error cause =>
    rw [hmake] at hshows
    cases hshows
  | ok b =>
    rw [hmake] at hshows
    exact ⟨g, b, hgate, rfl, by simpa using hparses, fun h => by simpa [hparses] using h.cased,
      hlists, Option.some.inj hshows⟩

end Binding

end MetastoreFederation.Metastore
