import Mathlib.Data.List.Pairwise
import MetastoreFederation.Metastore.Binding
import MetastoreFederation.Metastore.Compatibility
import MetastoreFederation.Proofs.Text.Beginnings

/-!
Surfaced names and the databases that they lead back to. A binding leads a name back to the database
for which it was surfaced, unless an alias of another database has taken the name over. Aliases
that differ from the names of their databases always take over some name.
-/

set_option autoImplicit false
set_option relaxedAutoImplicit false

namespace MetastoreFederation.Metastore

open Text

namespace AliasTable

variable {t : AliasTable} {database name : String}

/-- The last entry with a property, in the order of the databases. -/
def IsLast (t : AliasTable) (p : String × String → Prop) (e : String × String) : Prop :=
  ∃ before after, t.entries = before ++ e :: after ∧ p e ∧ ∀ d ∈ after, ¬ p d

/-- A database is surfaced under its own name, and under the alias in the last entry that is for it
up to case. -/
inductive Surfaces (t : AliasTable) (database : String) : String → Prop
  | own : Surfaces t database database
  | listed {e : String × String}
      (last : t.IsLast (fun d => Lowercase.lower d.1 = Lowercase.lower database) e) :
      Surfaces t database e.2

/-- The last entry that has the name as its alias, up to case, is for another database. -/
def TakenOver (t : AliasTable) (database name : String) : Prop :=
  ∃ e, t.IsLast (fun d => Lowercase.lower d.2 = Lowercase.lower name) e ∧ e.1 ≠ database

private theorem find?_reverse_eq_some_iff {α : Type} {l : List α} {p : α → Bool} {a : α} :
    l.reverse.find? p = some a ↔
      ∃ before after, l = before ++ a :: after ∧ p a = true ∧ ∀ x ∈ after, ¬ p x = true := by
  rw [List.find?_eq_some_iff_append]
  constructor
  · rintro ⟨ha, front, back, hsplit, hfront⟩
    refine ⟨back.reverse, front.reverse, ?_, ha, fun x hx => ?_⟩
    · rw [← List.reverse_reverse l, hsplit]
      simp
    · simpa using hfront x (List.mem_reverse.mp hx)
  · rintro ⟨before, after, rfl, ha, hafter⟩
    refine ⟨ha, after.reverse, before.reverse, by simp, fun x hx => ?_⟩
    simpa using hafter x (List.mem_reverse.mp hx)

theorem aliasOf?_eq_some_iff {surfaced : String} :
    t.aliasOf? database = some surfaced ↔
      ∃ e, t.IsLast (fun d => Lowercase.lower d.1 = Lowercase.lower database) e ∧
        e.2 = surfaced := by
  simp only [aliasOf?, Option.map_eq_some_iff, find?_reverse_eq_some_iff, IsLast,
    Lowercase.sameLower, beq_iff_eq]

theorem databaseOf?_eq_some_iff :
    t.databaseOf? name = some database ↔
      ∃ e, t.IsLast (fun d => Lowercase.lower d.2 = Lowercase.lower name) e ∧
        e.1 = database := by
  simp only [databaseOf?, Option.map_eq_some_iff, find?_reverse_eq_some_iff, IsLast,
    Lowercase.sameLower, beq_iff_eq]

theorem IsLast.mem {p : String × String → Prop} {e : String × String} (h : t.IsLast p e) :
    e ∈ t.entries := by
  obtain ⟨before, after, hentries, -⟩ := h
  rw [hentries]
  exact List.mem_append_right _ List.mem_cons_self

theorem exists_databaseOf?_of_mem {e : String × String} (he : e ∈ t.entries) :
    ∃ other, t.databaseOf? e.2 = some other := by
  have hsome : (t.databaseOf? e.2).isSome = true := by
    rw [databaseOf?, Option.isSome_map, List.find?_isSome]
    exact ⟨e, List.mem_reverse.mpr he, beq_self_eq_true _⟩
  exact Option.isSome_iff_exists.mp hsome

theorem exists_isLast_of_mem {e : String × String} (he : e ∈ t.entries) :
    ∃ d, t.IsLast (fun d => Lowercase.lower d.1 = Lowercase.lower e.1) d := by
  have hsome : (t.aliasOf? e.1).isSome = true := by
    rw [aliasOf?, Option.isSome_map, List.find?_isSome]
    exact ⟨e, List.mem_reverse.mpr he, beq_self_eq_true _⟩
  obtain ⟨surfaced, hsurfaced⟩ := Option.isSome_iff_exists.mp hsome
  obtain ⟨d, hlast, -⟩ := aliasOf?_eq_some_iff.mp hsurfaced
  exact ⟨d, hlast⟩

/-- No database has two entries. -/
theorem eq_of_mem_of_fst_eq {d e : String × String} (hd : d ∈ t.entries) (he : e ∈ t.entries)
    (h : d.1 = e.1) : d = e := by
  have hne : t.entries.Pairwise fun d e => d.1 ≠ e.1 := by
    refine t.ordered.imp fun {d e} hlt heq => ?_
    rw [heq] at hlt
    exact String.lt_irrefl _ hlt
  by_contra hdiff
  have hsymm : Std.Symm fun d e : String × String => d.1 ≠ e.1 := ⟨fun _ _ h => h.symm⟩
  exact hne.forall hd he hdiff h

theorem mem_surfaceNames_iff : name ∈ t.surfaceNames database ↔ t.Surfaces database name := by
  rw [surfaceNames, List.mem_cons, Option.mem_toList, aliasOf?_eq_some_iff]
  constructor
  · rintro (rfl | ⟨e, hlast, rfl⟩)
    · exact .own
    · exact .listed hlast
  · intro h
    cases h with
    | own => exact .inl rfl
    | listed hlast => exact .inr ⟨_, hlast, rfl⟩

theorem localName_empty : empty.localName name = name := rfl

/-- A surfaced name leads back to its database where it is not taken over. -/
theorem localName_eq_iff (h : t.Surfaces database name) :
    t.localName name = database ↔ ¬ t.TakenOver database name := by
  have htaken : t.TakenOver database name ↔
      ∃ other, t.databaseOf? name = some other ∧ other ≠ database := by
    simp only [TakenOver, databaseOf?_eq_some_iff]
    constructor
    · rintro ⟨e, hlast, hne⟩
      exact ⟨e.1, ⟨e, hlast, rfl⟩, hne⟩
    · rintro ⟨_, ⟨e, hlast, rfl⟩, hne⟩
      exact ⟨e, hlast, hne⟩
  rw [htaken, localName]
  cases hfound : t.databaseOf? name with
  | some other => simp
  | none =>
    -- An alias is found at least in its own entry, so only the database's own name is left.
    cases h with
    | own => simp
    | listed hlast =>
      obtain ⟨other, hother⟩ := exists_databaseOf?_of_mem hlast.mem
      rw [hfound] at hother
      cases hother

/-- Where all names lead back, a database whose name is an alias up to case is the one that has the
alias. -/
private theorem eq_fst_of_forall_localName
    (hback : ∀ database name, t.Surfaces database name → t.localName name = database)
    {e : String × String} (he : e ∈ t.entries)
    (hname : Lowercase.lower name = Lowercase.lower e.2) : name = e.1 := by
  -- Both the name and the alias are databases that have to be led back to.
  have hlocal : t.localName name = t.localName e.2 := by
    simp only [localName, databaseOf?, Lowercase.sameLower, hname]
    obtain ⟨other, hother⟩ := exists_databaseOf?_of_mem he
    simp only [databaseOf?, Lowercase.sameLower] at hother
    rw [hother]
    rfl
  have hsame : name = e.2 := by
    rw [← hback name name .own, ← hback e.2 e.2 .own, hlocal]
  -- The last entry for the database is the entry itself, since both databases have its alias.
  obtain ⟨d, hlast⟩ := exists_isLast_of_mem he
  have hlower : Lowercase.lower d.1 = Lowercase.lower e.1 := by
    obtain ⟨-, -, -, hd, -⟩ := hlast
    exact hd
  have hlastOwn : t.IsLast (fun c => Lowercase.lower c.1 = Lowercase.lower d.1) d := by
    rw [hlower]
    exact hlast
  have hbases : d.1 = e.1 :=
    (hback d.1 d.2 (.listed hlastOwn)).symm.trans (hback e.1 d.2 (.listed hlast))
  have hentries : d = e := eq_of_mem_of_fst_eq hlast.mem he hbases
  have halias : t.localName e.2 = e.1 := by
    rw [hentries] at hlast
    exact hback e.1 e.2 (.listed hlast)
  rw [hsame, ← hback e.2 e.2 .own, halias]

/-- All names of all databases lead back just where each alias is the name of its database, and of
no other database in any case. -/
theorem forall_localName_eq_iff :
    (∀ database name, t.Surfaces database name → t.localName name = database) ↔
      ∀ e ∈ t.entries, ∀ name, Lowercase.lower name = Lowercase.lower e.2 → name = e.1 := by
  constructor
  · intro hback e he name hname
    exact eq_fst_of_forall_localName hback he hname
  · intro hown database name hsurfaces
    rw [localName_eq_iff hsurfaces]
    rintro ⟨e, hlast, hne⟩
    obtain ⟨-, -, -, hename, -⟩ := id hlast
    have hfirst : name = e.1 := hown e hlast.mem name hename.symm
    cases hsurfaces with
    | own => exact hne hfirst.symm
    | @listed d hlast' =>
      obtain ⟨-, -, -, hdname, -⟩ := id hlast'
      have hself : d.2 = d.1 := hown d hlast'.mem d.2 rfl
      have hdatabase : database = d.1 := by
        apply hown d hlast'.mem
        rw [hself, hdname]
      rw [hdatabase, ← hself] at hne
      exact hne hfirst.symm

end AliasTable

namespace Binding

variable {κ : Type}

/-- The prefix is taken off again, and what is left is looked up among the aliases. -/
@[simp] theorem inbound_outbound (b : Binding κ) (name : String) :
    b.inbound (b.outbound name) = b.definition.aliases.localName name := by
  simp [inbound, outbound]

/-- The names in the federation are the surfaced ones, with the prefix in front. -/
theorem forall_mem_outboundNames_iff {b : Binding κ} {database : String} {p : String → Prop} :
    (∀ name ∈ b.outboundNames database, p name) ↔
      ∀ name, b.definition.aliases.Surfaces database name → p (b.outbound name) := by
  simp only [outboundNames, List.forall_mem_map, AliasTable.mem_surfaceNames_iff]

/-- A binding leads all names of a database back to it just where none of them is taken over. It
does so for every database just where each alias is the name of its database, and of no other one
in any case. -/
theorem inbound_outboundNames_iff (b : Binding κ) :
    (∀ database, (∀ name ∈ b.outboundNames database, b.inbound name = database) ↔
      ∀ name, b.definition.aliases.Surfaces database name →
        ¬ b.definition.aliases.TakenOver database name) ∧
    ((∀ database, ∀ name ∈ b.outboundNames database, b.inbound name = database) ↔
      ∀ e ∈ b.definition.aliases.entries, ∀ name,
        Lowercase.lower name = Lowercase.lower e.2 → name = e.1) := by
  simp only [forall_mem_outboundNames_iff, inbound_outbound]
  constructor
  · intro database
    exact forall₂_congr fun name hsurfaces => AliasTable.localName_eq_iff hsurfaces
  · exact AliasTable.forall_localName_eq_iff

/-- The logs of a metastore are surfaced as events too. -/
def renamedLogs : Definition :=
  { name := "waggle", addresses := "a", aliases := .ofList [("logs", "events")] }

/-- A database with the name of the alias is surfaced under its name, and the name leads to the
logs. -/
theorem inbound_of_alias_of_another :
    checkCompatible .prefixed [] renamedLogs = .ok () ∧
      ∃ b : Binding Unit, make .prefixed 0 ⟨0, renamedLogs⟩ () = .ok b ∧
        "waggle_events" ∈ b.outboundNames "events" ∧ b.inbound "waggle_events" = "logs" := by
  refine ⟨by decide, _, rfl, by decide, by decide⟩

end Binding

end MetastoreFederation.Metastore
