import MetastoreFederation.Proofs.Metastore.Aliases
import MetastoreFederation.Proofs.Routing.Ownership

/-!
Whether the names under which a metastore's databases are surfaced lead back to it. With prefixes
they do where no prefix begins another one, and the local name and the access to it come back too.
With lists of databases they do for the names that are listed.
-/

set_option autoImplicit false
set_option relaxedAutoImplicit false

namespace MetastoreFederation.Routing

open Metastore Request Text

variable {κ : Type}

/-- Access to read by a name that is taken as it stands. The gate has no say in it. -/
def checkReadable (b : Binding κ) (database : String) (table : Option String) :
    Except AccessError Unit :=
  checkVisible b (b.inbound database) table

/-- Neither of two prefixes begins the other one in any case of its letters, unless it is empty. -/
def Apart (start other : String) : Prop :=
  ¬ (start ≠ "" ∧ AsciiCase.Begins start other) ∧ ¬ (other ≠ "" ∧ AsciiCase.Begins other start)

instance (start other : String) : Decidable (Apart start other) :=
  inferInstanceAs (Decidable (¬ (start ≠ "" ∧ AsciiCase.Begins start other) ∧
    ¬ (other ≠ "" ∧ AsciiCase.Begins other start)))

/-- No prefix of a registered metastore begins the prefix of another one. -/
def Snapshot.PrefixesApart (s : Snapshot κ) : Prop :=
  (s.bindings.map Binding.databasePrefix).Pairwise Apart

/-- The name of a database leads back: to the binding that surfaces it, there to the database, and
to all that may be read of it. -/
structure LeadsBack (r : Registry κ) (b : Binding κ) (database : String) : Prop where
  serving : r.snapshot.serving r.resolution (b.outbound database) = .ok b
  inbound : b.inbound (b.outbound database) = database
  readable : checkReadable b (b.outbound database) none = .ok ()
  tables : ∀ table, b.showsTable database table = true →
    checkReadable b (b.outbound database) (some table) = .ok ()

namespace Registry

namespace Coherent

variable {r : Registry κ}

/-- Prefixes are apart just where no name is claimed by two metastores. -/
theorem prefixesApart_iff (h : r.Coherent) :
    r.snapshot.PrefixesApart ↔
      ∀ name, ∀ b ∈ r.snapshot.bindings, ∀ c ∈ r.snapshot.bindings,
        Claims .prefixed b name → Claims .prefixed c name → c = b := by
  unfold Snapshot.PrefixesApart
  rw [List.pairwise_map]
  constructor
  · intro hapart name b hb c hc hclaims hclaims'
    by_contra hne
    have hsymm : Std.Symm fun b c : Binding κ => Apart b.databasePrefix c.databasePrefix :=
      ⟨fun _ _ h => h.symm⟩
    have hbc := hapart.forall hb hc (Ne.symm hne)
    rcases hclaims.2.begins_or_begins hclaims'.2 with hbegins | hbegins
    · exact hbc.1 ⟨hclaims.1, hbegins⟩
    · exact hbc.2 ⟨hclaims'.1, hbegins⟩
  · intro hsole
    -- A prefix that begins another one claims the other prefix as a name.
    have hclash : ∀ b ∈ r.snapshot.bindings, ∀ c ∈ r.snapshot.bindings, b ≠ c →
        ¬ (b.databasePrefix ≠ "" ∧
          AsciiCase.Begins b.databasePrefix c.databasePrefix) := by
      rintro b hb c hc hne ⟨hlead, hbegins⟩
      have hlead' : c.databasePrefix ≠ "" := fun hempty =>
        hlead (by simpa [hempty, AsciiCase.begins_iff_isPrefix] using hbegins)
      have hself : AsciiCase.Begins c.databasePrefix c.databasePrefix := by
        simp [AsciiCase.begins_iff_isPrefix]
      exact hne (hsole _ c hc b hb ⟨hlead', hself⟩ ⟨hlead, hbegins⟩)
    exact h.nodup_bindings.imp_of_mem fun {b c} hb hc hne =>
      ⟨hclash b hb c hc hne, hclash c hc b hb (Ne.symm hne)⟩

/-- With such prefixes the owner of a name is the one metastore that claims it. -/
theorem ownerByPrefix?_eq_some_iff_claims (h : r.Coherent) (hapart : r.snapshot.PrefixesApart)
    {name : String} {b : Binding κ} :
    r.snapshot.ownerByPrefix? name = some b ↔
      b ∈ r.snapshot.bindings ∧ Claims .prefixed b name := by
  constructor
  · intro howner
    exact claims_of_owns (h.ownerByPrefix?_eq_some_iff.mp howner)
  · rintro ⟨hb, hclaims⟩
    cases howner : r.snapshot.ownerByPrefix? name with
    | none => exact absurd hclaims (h.ownerByPrefix?_eq_none_iff.mp howner b hb)
    | some c =>
      obtain ⟨hc, hclaims'⟩ := claims_of_owns (h.ownerByPrefix?_eq_some_iff.mp howner)
      rw [h.prefixesApart_iff.mp hapart name b hb c hc hclaims hclaims']

theorem leadsBack (h : r.Coherent) (hresolution : r.resolution = .prefixed)
    (hapart : r.snapshot.PrefixesApart) {b : Binding κ} (hb : b ∈ r.snapshot.bindings)
    (hlead : b.databasePrefix ≠ "") (haliases : b.definition.aliases = .empty)
    {database : String} (hshown : b.showsDatabase database = true) : LeadsBack r b database := by
  have hinbound : b.inbound (b.outbound database) = database := by
    rw [Binding.inbound_outbound, haliases, AliasTable.localName_empty]
  have hclaims : Claims .prefixed b (b.outbound database) :=
    ⟨hlead, AsciiCase.begins_append ..⟩
  have howner : r.snapshot.ownerByPrefix? (b.outbound database) = some b :=
    (h.ownerByPrefix?_eq_some_iff_claims hapart).mpr ⟨hb, hclaims⟩
  have hreadable : ∀ table : Option String,
      (∀ name ∈ table, b.showsTable database name = true) →
        checkReadable b (b.outbound database) table = .ok () := by
    intro table htable
    rw [checkReadable, hinbound, checkVisible_eq_ok_iff]
    exact ⟨hshown, htable⟩
  refine ⟨?_, hinbound, hreadable none ?_, fun table htable => hreadable (some table) ?_⟩
  · rw [hresolution, Snapshot.serving, Snapshot.owner?, howner, Option.some_or]
  · simp
  · simpa using htable

/-- A name that is served for its prefix comes back from its metastore in another case at most. -/
theorem same_outbound_inbound {b : Binding κ} (haliases : b.definition.aliases = .empty)
    {name : String} (howner : r.snapshot.ownerByPrefix? name = some b) :
    AsciiCase.same (b.outbound (b.inbound name)) name = true := by
  have hbegins := List.find?_some howner
  obtain ⟨rest, hrest⟩ := Option.isSome_iff_exists.mp hbegins
  have hinbound : b.inbound name = rest := by
    rw [Binding.inbound, haliases, AliasTable.localName_empty, hrest, Option.getD_some]
  rw [hinbound]
  exact AsciiCase.same_append_of_dropStartOf? hrest

/-- With lists of databases a metastore serves just the names that it lists. -/
theorem serving_manual_eq_ok_iff (h : r.Coherent) (hresolution : r.resolution = .manual)
    {b : Binding κ} (hb : b ∈ r.snapshot.bindings) (hfederated : b.isPrimary = false)
    {name : String} :
    r.snapshot.serving .manual name = .ok b ↔
      ∃ listed ∈ b.definition.listedDatabases, Lowercase.lower listed = Lowercase.lower name := by
  have hscan := h.serving_eq_iff_scan name (.ok b)
  rw [hresolution] at hscan
  rw [hscan]
  constructor
  · intro hresult
    cases hresult with
    | owner howns => exact (claims_of_owns howns).2.2
    | primary _ _ hprimary => exact absurd (hprimary.symm.trans hfederated) (by decide)
  · intro hlisted
    have hclaims : Claims .manual b name := ⟨hfederated, hlisted⟩
    exact .owner ⟨hb, hclaims, fun c hc => h.eq_of_claims_manual hresolution hb hc hclaims⟩

end Coherent

/-- Where no prefix begins another one, the names of the visible databases of a metastore with a
prefix and without aliases lead back, and names that it serves come back in another case at most. -/
theorem leadsBack_history (changes : List (Factory κ × Event))
    (hapart : (history .prefixed changes).snapshot.PrefixesApart) {b : Binding κ}
    (hb : b ∈ (history .prefixed changes).snapshot.bindings) (hlead : b.databasePrefix ≠ "")
    (haliases : b.definition.aliases = .empty) :
    (∀ database, b.showsDatabase database = true →
      LeadsBack (history .prefixed changes) b database) ∧
    ∀ name, (history .prefixed changes).snapshot.ownerByPrefix? name = some b →
      AsciiCase.same (b.outbound (b.inbound name)) name = true := by
  have h := coherent_history .prefixed changes
  have hresolution := resolution_history .prefixed changes
  constructor
  · intro database hshown
    exact h.leadsBack hresolution hapart hb hlead haliases hshown
  · intro name howner
    exact Coherent.same_outbound_inbound haliases howner

/-- A primary, a metastore that shows some tables of one database, and another one. -/
def prefixedChanges : List (Factory Unit × Event) :=
  [.register ⟨0, { name := "primary", role := .primary, addresses := "a" }⟩,
    .register ⟨1, {
      name := "waggle", addresses := "b", explicitPrefix := some "w_",
      visibleDatabases := some ["Logs"], tableRules := [⟨"logs", ["hits.*"]⟩] }⟩,
    .register ⟨2, { name := "bee", addresses := "c" }⟩].map fun event => (fun _ => .ok (), event)

/-- The visible database leads back in every case, with its tables, and a name in capital letters
comes back. -/
theorem leadsBack_history_waggle :
    ∃ b ∈ (history .prefixed prefixedChanges).snapshot.bindings, b.name = "waggle" ∧
      LeadsBack (history .prefixed prefixedChanges) b "LOGS" ∧
      checkReadable b "w_LOGS" (some "hits_2024") = .ok () ∧
      AsciiCase.same (b.outbound (b.inbound "W_SALES")) "W_SALES" = true := by
  have h := coherent_history .prefixed prefixedChanges
  have hapart : (history .prefixed prefixedChanges).snapshot.PrefixesApart := by
    unfold Snapshot.PrefixesApart
    decide
  obtain ⟨b, hfind⟩ :
      ∃ b, (history .prefixed prefixedChanges).snapshot.find? "waggle" = some b :=
    Option.isSome_iff_exists.mp (by decide)
  have hfacts : ∀ b ∈ (history .prefixed prefixedChanges).snapshot.find? "waggle",
      b.databasePrefix = "w_" ∧ b.definition.aliases = .empty ∧
        b.showsDatabase "LOGS" = true ∧ b.showsTable "LOGS" "hits_2024" = true := by
    decide
  obtain ⟨hstart, haliases, hdatabase, htable⟩ := hfacts b hfind
  obtain ⟨hb, hname⟩ := h.find?_eq_some_iff.mp hfind
  have hlead : b.databasePrefix ≠ "" := by
    rw [hstart]
    decide
  obtain ⟨hleads, hsame⟩ := leadsBack_history prefixedChanges hapart hb hlead haliases
  have hlogs := hleads "LOGS" hdatabase
  refine ⟨b, hb, hname, hlogs, ?_, hsame "W_SALES" ?_⟩
  · have hout : b.outbound "LOGS" = "w_LOGS" := by
      rw [Binding.outbound, hstart]
      decide
    rw [← hout]
    exact hlogs.tables _ htable
  · refine (h.ownerByPrefix?_eq_some_iff_claims hapart).mpr ⟨hb, hlead, ?_⟩
    rw [hstart]
    decide

/-- With lists of databases, the names of a visible database that a metastore lists are served by
it, aliases included, and its own name is listed where there is a list. A metastore without a list
serves nothing. -/
theorem serving_outboundNames_history (changes : List (Factory κ × Event)) {b : Binding κ}
    (hb : b ∈ (history .manual changes).snapshot.bindings) (hfederated : b.isPrimary = false) :
    (∀ database, b.showsDatabase database = true → ∀ name ∈ b.outboundNames database,
      (∃ listed ∈ b.definition.listedDatabases,
        Lowercase.lower listed = Lowercase.lower name) →
      (history .manual changes).snapshot.serving .manual name = .ok b) ∧
    (b.definition.visibleDatabases ≠ none → ∀ database, b.showsDatabase database = true →
      (history .manual changes).snapshot.serving .manual (b.outbound database) = .ok b) ∧
    (b.definition.visibleDatabases = none → ∀ name,
      (history .manual changes).snapshot.serving .manual name ≠ .ok b) := by
  have h := coherent_history .manual changes
  have hresolution := resolution_history .manual changes
  have hserving : ∀ {name}, (history .manual changes).snapshot.serving .manual name = .ok b ↔
      ∃ listed ∈ b.definition.listedDatabases, Lowercase.lower listed = Lowercase.lower name :=
    h.serving_manual_eq_ok_iff hresolution hb hfederated
  refine ⟨fun database _ name _ hlisted => hserving.mpr hlisted, ?_, ?_⟩
  · intro hgiven database hshown
    obtain ⟨visible, hvisible⟩ := Option.ne_none_iff_exists'.mp hgiven
    -- There are no prefixes, so the name is that of the database, and it is shown for being listed.
    have hstart : b.databasePrefix = "" := by
      rw [h.databasePrefix b hb, hresolution]
      rfl
    have hout : b.outbound database = database := by
      rw [Binding.outbound, hstart, String.empty_append]
    rw [hout, hserving, Definition.listedDatabases, hvisible, Option.getD_some]
    rw [Binding.showsDatabase, hvisible] at hshown
    obtain ⟨listed, hmem, hlower⟩ := List.any_eq_true.mp hshown
    exact ⟨listed, hmem, beq_iff_eq.mp hlower⟩
  · intro hnone name hname
    obtain ⟨listed, hmem, -⟩ := hserving.mp hname
    rw [Definition.listedDatabases, hnone] at hmem
    exact List.not_mem_nil hmem

/-- A primary, a metastore without a list, and one that lists one of its two aliases. -/
def listedChanges : List (Factory Unit × Event) :=
  [.register ⟨0, { name := "primary", role := .primary, addresses := "a" }⟩,
    .register ⟨1, { name := "waggle", addresses := "b" }⟩,
    .register ⟨2, {
      name := "wasp", addresses := "c", visibleDatabases := some ["hives", "combs", "Cells"],
      aliases := .ofList [("combs", "cells"), ("hives", "nests")] }⟩].map
        fun event => (fun _ => .ok (), event)

/-- The alias in the list is served by its metastore as the databases are, and nothing is served by
the metastore without a list. -/
theorem serving_outboundNames_history_wasp :
    ∃ b ∈ (history .manual listedChanges).snapshot.bindings, b.name = "wasp" ∧
      b.outboundNames "combs" = ["combs", "cells"] ∧
      (history .manual listedChanges).snapshot.serving .manual "cells" = .ok b ∧
      (history .manual listedChanges).snapshot.serving .manual (b.outbound "HIVES") = .ok b ∧
      ∃ c ∈ (history .manual listedChanges).snapshot.bindings, c.name = "waggle" ∧
        ∀ name, (history .manual listedChanges).snapshot.serving .manual name ≠ .ok c := by
  have h := coherent_history .manual listedChanges
  obtain ⟨b, hfind⟩ : ∃ b, (history .manual listedChanges).snapshot.find? "wasp" = some b :=
    Option.isSome_iff_exists.mp (by decide)
  obtain ⟨c, hfind'⟩ : ∃ c, (history .manual listedChanges).snapshot.find? "waggle" = some c :=
    Option.isSome_iff_exists.mp (by decide)
  have hfacts : ∀ b ∈ (history .manual listedChanges).snapshot.find? "wasp",
      b.isPrimary = false ∧ b.outboundNames "combs" = ["combs", "cells"] ∧
        b.showsDatabase "combs" = true ∧ b.showsDatabase "HIVES" = true ∧
        b.definition.visibleDatabases = some ["hives", "combs", "Cells"] := by
    decide
  have hfacts' : ∀ c ∈ (history .manual listedChanges).snapshot.find? "waggle",
      c.isPrimary = false ∧ c.definition.visibleDatabases = none := by
    decide
  obtain ⟨hfederated, hnames, hcombs, hhives, hvisible⟩ := hfacts b hfind
  obtain ⟨hfederated', hnone⟩ := hfacts' c hfind'
  obtain ⟨hb, hname⟩ := h.find?_eq_some_iff.mp hfind
  obtain ⟨hc, hname'⟩ := h.find?_eq_some_iff.mp hfind'
  obtain ⟨hlisted, hown, -⟩ := serving_outboundNames_history listedChanges hb hfederated
  obtain ⟨-, -, hnothing⟩ := serving_outboundNames_history listedChanges hc hfederated'
  refine ⟨b, hb, hname, hnames, hlisted "combs" hcombs "cells" ?_ ⟨"Cells", ?_, by decide⟩,
    hown ?_ "HIVES" hhives, c, hc, hname', hnothing hnone⟩
  · rw [hnames]
    decide
  · rw [Definition.listedDatabases, hvisible]
    decide
  · rw [hvisible]
    exact Option.some_ne_none _

/-- A database of the metastore without a list and the alias that is not listed are surfaced, and
the primary serves them. -/
theorem serving_of_unlisted_names :
    (∃ b ∈ (history .manual listedChanges).snapshot.bindings, b.name = "waggle" ∧
      b.isPrimary = false ∧ b.showsDatabase "logs" = true ∧ "logs" ∈ b.outboundNames "logs") ∧
    ((history .manual listedChanges).snapshot.serving .manual "logs").toOption.map Binding.name =
      some "primary" ∧
    (∃ b ∈ (history .manual listedChanges).snapshot.bindings, b.name = "wasp" ∧
      b.isPrimary = false ∧ b.showsDatabase "hives" = true ∧ "nests" ∈ b.outboundNames "hives") ∧
    ((history .manual listedChanges).snapshot.serving .manual "nests").toOption.map Binding.name =
      some "primary" := by
  decide

end Registry

end MetastoreFederation.Routing
