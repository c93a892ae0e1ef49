import MetastoreFederation.InMemory
import MetastoreFederation.Proofs.Federation.Course
import MetastoreFederation.Proofs.Survey.Reach

/-!
Looking up a name, beside the listing of all names. What is found is listed, but a name that is
listed as an alias is not found by it, since the metastores are asked for their own databases.
-/

set_option autoImplicit false
set_option relaxedAutoImplicit false

namespace MetastoreFederation

open Metastore Request Routing
open Pattern.Qualifier (strip defaultCatalog)
open Pattern.Decompose (matchesSome partFor?)

variable {κ : Type}

namespace Survey

/-- All metastores answer in time. Each lists the databases that it has, and by a pattern just those
that match some clause of it. -/
structure Prompt (clients : κ → Client) (v : Survey κ) (held : Binding κ → List String) : Prop where
  all : ∀ b ∈ v.bindings, ∃ time,
    time ≤ v.timeout + b.definition.latency.toNat ∧
      (clients b.client).call .allDatabases = .answered time (.ok (held b))
  matching : ∀ b ∈ v.bindings, ∀ pattern, ∃ time, ∃ found : List String,
    time ≤ v.timeout + b.definition.latency.toNat ∧
      (clients b.client).call (.databases (some pattern)) = .answered time (.ok found) ∧
      ∀ database, database ∈ found ↔ database ∈ held b ∧ matchesSome pattern database = true

/-- A database of a metastore is visible under the name. -/
structure Lists (v : Survey κ) (held : Binding κ → List String) (name : String) (b : Binding κ)
    (database : String) : Prop where
  available : b ∈ v.bindings
  held : database ∈ held b
  shown : v.shows b database = true
  surfaced : name ∈ b.outboundNames database

/-- The metastore is asked for the database when the name is looked up: for the one whose own name
it is in the federation. The sentinel goes to everybody as it stands. -/
def AsksFor (v : Survey κ) (name : String) (b : Binding κ) (database : String) : Prop :=
  if v.scope = .decomposed ∧ name = defaultCatalog then database = name
  else b.outbound database = name

variable {clients : κ → Client} {v : Survey κ} {held : Binding κ → List String} {name : String}

/-- Metastores in memory that answer at once answer so. -/
theorem prompt_of_inMemory (stores : κ → InMemory)
    (hanswers : ∀ b ∈ v.bindings, (stores b.client).behavior = .answers) :
    v.Prompt (fun k => (stores k).client)
      fun b => (stores b.client).databases.map Prod.fst where
  all b hb := by
    refine ⟨0, Nat.zero_le _, ?_⟩
    change (stores b.client).perform _ = _
    unfold InMemory.perform
    rw [hanswers b hb]
    rfl
  matching b hb pattern := by
    refine ⟨0, ((stores b.client).matching pattern).map Prod.fst, Nat.zero_le _, ?_, ?_⟩
    · change (stores b.client).perform _ = _
      unfold InMemory.perform
      rw [hanswers b hb]
      rfl
    · intro database
      simp only [InMemory.matching, List.mem_map, List.mem_filter]
      constructor
      · rintro ⟨d, ⟨hd, hmatch⟩, rfl⟩
        exact ⟨⟨d, hd, rfl⟩, hmatch⟩
      · rintro ⟨⟨d, hd, rfl⟩, hmatch⟩
        exact ⟨d, ⟨hd, hmatch⟩, rfl⟩

theorem mem_surface_iff {b : Binding κ} {databases : List String} :
    name ∈ v.surface b databases ↔
      ∃ database ∈ databases, v.shows b database = true ∧ name ∈ b.outboundNames database := by
  unfold surface
  simp only [List.mem_flatMap, List.mem_filter, and_assoc]

theorem mem_allDatabases_iff (hclients : v.Prompt clients held) (name : String) :
    name ∈ (v.allDatabases clients).items ↔ ∃ b database, v.Lists held name b database := by
  have harrival (b : Binding κ) (hb : b ∈ v.bindings) : ∃ time,
      (v.target clients ⟨b, .allDatabases, v.surface b⟩).arrival? =
        some (time, v.surface b (held b)) := by
    obtain ⟨time, hintime, hcall⟩ := hclients.all b hb
    exact ⟨time, arrival?_of_answered hcall hintime⟩
  unfold allDatabases
  rw [mem_items_iff]
  constructor
  · rintro ⟨q, hq, time, items, harrived, hname⟩
    obtain ⟨b, hb, rfl⟩ := List.mem_map.mp hq
    obtain ⟨time', harrived'⟩ := harrival b hb
    obtain ⟨-, rfl⟩ := Prod.mk.inj (Option.some.inj (harrived.symm.trans harrived'))
    obtain ⟨database, hheld, hshown, hsurfaced⟩ := mem_surface_iff.mp hname
    exact ⟨b, database, hb, hheld, hshown, hsurfaced⟩
  · rintro ⟨b, database, hb, hheld, hshown, hsurfaced⟩
    obtain ⟨time, harrived⟩ := harrival b hb
    exact ⟨_, List.mem_map_of_mem hb, time, _, harrived,
      mem_surface_iff.mpr ⟨database, hheld, hshown, hsurfaced⟩⟩

/-- A pattern finds what matches the part of it that reaches the metastore. -/
theorem mem_databases_iff_reached (hclients : v.Prompt clients held) (pattern : String) :
    name ∈ (v.databases clients (some pattern)).items ↔
      ∃ b database, v.Lists held name b database ∧
        ∃ part, (b, part) ∈ v.reached pattern ∧ matchesSome part database = true := by
  unfold databases
  dsimp only
  rw [mem_items_iff]
  constructor
  · rintro ⟨q, hq, time, items, harrived, hname⟩
    obtain ⟨⟨b, part⟩, hreached, rfl⟩ := List.mem_map.mp hq
    have hb := mem_bindings_of_mem_reached hreached
    obtain ⟨time', found, hintime, hcall, hfound⟩ := hclients.matching b hb part
    have harrival := arrival?_of_answered (s := v) (q := v.databasesOf (some part) b) hcall hintime
    obtain ⟨-, rfl⟩ := Prod.mk.inj (Option.some.inj (harrived.symm.trans harrival))
    obtain ⟨database, hmem, hshown, hsurfaced⟩ := mem_surface_iff.mp hname
    obtain ⟨hheld, hmatch⟩ := (hfound database).mp hmem
    exact ⟨b, database, ⟨hb, hheld, hshown, hsurfaced⟩, part, hreached, hmatch⟩
  · rintro ⟨b, database, ⟨hb, hheld, hshown, hsurfaced⟩, part, hreached, hmatch⟩
    obtain ⟨time, found, hintime, hcall, hfound⟩ := hclients.matching b hb part
    have harrival := arrival?_of_answered (s := v) (q := v.databasesOf (some part) b) hcall hintime
    refine ⟨_, List.mem_map_of_mem hreached, time, _, harrival, mem_surface_iff.mpr ?_⟩
    exact ⟨database, (hfound database).mpr ⟨hheld, hmatch⟩, hshown, hsurfaced⟩

/-- A name without wildcards is looked up as itself, and a metastore is asked for the database whose
own name it is. -/
theorem exists_reached_iff
    (hunprefixed : v.scope = .forwarded → ∀ b ∈ v.bindings, b.databasePrefix = "")
    (hstrip : strip name = name) (hstar : '*' ∉ name.toList) (hdot : '.' ∉ name.toList)
    (hbar : '|' ∉ name.toList) {b : Binding κ} (hb : b ∈ v.bindings) (database : String) :
    (∃ part, (b, part) ∈ v.reached name ∧ matchesSome part database = true) ↔
      v.AsksFor name b database := by
  have hliteral := Pattern.Decompose.matchesSome_literal_iff hstar hdot hbar database
  unfold AsksFor
  cases hscope : v.scope with
  | forwarded =>
    have houtbound : b.outbound database = database := by
      unfold Binding.outbound
      rw [hunprefixed hscope b hb, String.empty_append]
    simp only [mem_reached_of_forwarded hscope, hb, true_and, exists_eq_left, hliteral,
      houtbound, reduceCtorEq, false_and, if_false]
  | decomposed =>
    have hmem : b.databasePrefix ∈ v.bindings.map Binding.databasePrefix := List.mem_map_of_mem hb
    simp only [mem_reached_of_decomposed hscope, hb, true_and]
    have hpass : Pattern.Decompose.isPassthrough name = true ↔ name = defaultCatalog := by
      unfold Pattern.Decompose.isPassthrough
      rw [Bool.or_eq_true, beq_iff_eq, or_iff_right]
      · constructor
        · intro hsame
          rw [← hstrip]
          exact Pattern.Qualifier.strip_eq_of_same hsame
        · rintro rfl
          decide
      · rintro rfl
        exact hstar (by decide)
    unfold partFor?
    by_cases hsentinel : name = defaultCatalog
    · simp only [if_pos (hpass.mpr hsentinel), if_pos hsentinel, Option.some.injEq,
        exists_eq_left', hliteral]
    · have hshared : ¬ Pattern.Decompose.isPassthrough name = true := mt hpass.mp hsentinel
      simp only [if_neg hshared, if_neg hsentinel]
      exact Pattern.Decompose.exists_matchesSome_share_iff hstrip hstar hdot hbar hmem database

theorem mem_databases_iff (hclients : v.Prompt clients held)
    (hunprefixed : v.scope = .forwarded → ∀ b ∈ v.bindings, b.databasePrefix = "")
    (hstrip : strip name = name) (hstar : '*' ∉ name.toList) (hdot : '.' ∉ name.toList)
    (hbar : '|' ∉ name.toList) :
    name ∈ (v.databases clients (some name)).items ↔
      ∃ b database, v.Lists held name b database ∧ v.AsksFor name b database := by
  rw [mem_databases_iff_reached hclients]
  refine exists_congr fun b => exists_congr fun database => and_congr_right fun hlists => ?_
  exact exists_reached_iff hunprefixed hstrip hstar hdot hbar hlists.available database

end Survey

namespace Catalog

variable {create : Factory κ} {settings : Settings} {inventory : Inventory} {f : Federation κ}

/-- Where patterns go to everybody as they stand, there are no prefixes. -/
theorem databasePrefix_eq_of_forwarded {t : Table κ} (hcoherent : t.registry.Coherent)
    {statuses : StatusBoard} {timeout : Nat}
    (hscope : (survey statuses timeout t).1.scope = .forwarded) :
    ∀ b ∈ (survey statuses timeout t).1.bindings, b.databasePrefix = "" := by
  intro b hb
  change Survey.Scope.under t.registry.resolution = .forwarded at hscope
  rw [hcoherent.databasePrefix b (List.mem_of_mem_filter hb)]
  cases hresolution : t.registry.resolution with
  | manual => rfl
  | prefixed =>
    rw [hresolution] at hscope
    cases hscope

/-- A name that is found is listed. A name that is listed is found just where it is the own name of
a visible database, and not only an alias. -/
theorem lookup_agrees_iff (hstart : Federation.start create settings inventory = .ok f)
    {trace : List Federation.Happening} {p : Federation.Moment κ}
    (hcourse : f.moment.Course trace p) {clients : κ → Client} {timeout : Nat}
    {held : Binding κ → List String}
    (hclients : (survey p.inventory.statuses timeout p.table).1.Prompt clients held) {name : String}
    (hstrip : strip name = name) (hstar : '*' ∉ name.toList) (hdot : '.' ∉ name.toList)
    (hbar : '|' ∉ name.toList) :
    let v := (survey p.inventory.statuses timeout p.table).1
    (name ∈ (v.databases clients (some name)).items → name ∈ (v.allDatabases clients).items) ∧
      ((name ∈ (v.databases clients (some name)).items ↔ name ∈ (v.allDatabases clients).items) ↔
        ((∃ b database, v.Lists held name b database) →
          ∃ b database, v.Lists held name b database ∧ v.AsksFor name b database)) := by
  intro v
  have hcoherent : p.table.registry.Coherent :=
    Federation.Moment.coherent_course hcourse (Federation.coherent_start hstart)
  have hfound := Survey.mem_databases_iff hclients (databasePrefix_eq_of_forwarded hcoherent)
    hstrip hstar hdot hbar
  have hlisted := Survey.mem_allDatabases_iff hclients name
  rw [hfound, hlisted]
  have hsub : (∃ b database, v.Lists held name b database ∧ v.AsksFor name b database) →
      ∃ b database, v.Lists held name b database := by
    rintro ⟨b, database, hlists, -⟩
    exact ⟨b, database, hlists⟩
  exact ⟨hsub, ⟨fun hagree => hagree.mpr, fun hown => ⟨hsub, hown⟩⟩⟩

/-- A metastore in memory with one database. -/
def oneDatabase (database : String) : InMemory where
  name := "primary"
  databases := [(database, [])]
  groups := none
  behavior := .answers

/-- A primary, and a metastore whose logs are surfaced as events too. -/
def eventLogs : List Definition :=
  [{ name := "primary", role := .primary, addresses := "a" },
    { name := "waggle", addresses := "b", aliases := .ofList [("logs", "events")] }]

/-- What is bound in a federation that starts with them. -/
structure BindsEventLogs (f : Federation Unit) : Prop where
  resolution : f.table.resolution = .prefixed
  statuses : f.statuses = .empty
  bindings : f.table.bindings.map (fun b => (b.definition, b.databasePrefix)) =
    [(eventLogs[0], ""), (eventLogs[1], "waggle_")]

theorem start_eventLogs : ∃ f : Federation Unit,
    Federation.start (fun _ => .ok ()) {} (.ofDefinitions eventLogs) = .ok f ∧
      BindsEventLogs f := by
  have hcomputed : (Federation.start (fun _ => .ok ()) {} (.ofDefinitions eventLogs)).toOption.map
      (fun f => (f.table.resolution, f.statuses.records,
        f.table.bindings.map fun b => (b.definition, b.databasePrefix))) =
      some (.prefixed, [], [(eventLogs[0], ""), (eventLogs[1], "waggle_")]) := by decide
  obtain ⟨f, hf, heq⟩ := Option.map_eq_some_iff.mp hcomputed
  obtain ⟨hresolution, heq⟩ := Prod.mk.inj heq
  obtain ⟨hrecords, hbindings⟩ := Prod.mk.inj heq
  cases hstart : Federation.start (fun _ => .ok ()) {} (.ofDefinitions eventLogs) with
  | error cause =>
    rw [hstart] at hf
    cases hf
  | ok g =>
    rw [hstart] at hf
    obtain rfl := Option.some.inj hf
    exact ⟨g, rfl, hresolution, congrArg StatusBoard.mk hrecords, hbindings⟩

section EventLogs

variable {f : Federation Unit}

theorem mem_available_eventLogs (h : BindsEventLogs f) {b : Binding Unit} :
    b ∈ (survey f.statuses 0 f.table).1.bindings ↔ b ∈ f.table.bindings := by
  change b ∈ f.table.available f.statuses ↔ _
  unfold Table.available
  rw [List.mem_filter, h.statuses]
  exact and_iff_left rfl

theorem prompt_eventLogs (v : Survey Unit) :
    v.Prompt (fun _ => (oneDatabase "logs").client) fun _ => ["logs"] :=
  Survey.prompt_of_inMemory (fun _ => oneDatabase "logs") fun _ _ => rfl

theorem exists_waggle (h : BindsEventLogs f) :
    ∃ b ∈ f.table.bindings, b.definition = eventLogs[1] ∧ b.databasePrefix = "waggle_" := by
  have hmem : (eventLogs[1], "waggle_") ∈
      f.table.bindings.map fun b => (b.definition, b.databasePrefix) := by
    rw [h.bindings]
    exact List.mem_cons_of_mem _ List.mem_cons_self
  obtain ⟨b, hb, heq⟩ := List.mem_map.mp hmem
  exact ⟨b, hb, Prod.mk.inj heq⟩

/-- The logs are listed as events, too. -/
theorem lists_eventLogs (h : BindsEventLogs f) {name : String}
    (hname : name ∈ ["waggle_logs", "waggle_events"]) :
    ∃ b, (survey f.statuses 0 f.table).1.Lists (fun _ => ["logs"]) name b "logs" ∧
      b.databasePrefix = "waggle_" := by
  obtain ⟨b, hb, hdefinition, hlead⟩ := exists_waggle h
  refine ⟨b, ⟨(mem_available_eventLogs h).mpr hb, List.mem_singleton_self _, ?_, ?_⟩, hlead⟩
  · change b.showsDatabase "logs" = true
    unfold Binding.showsDatabase
    rw [hdefinition]
    rfl
  · have hsurfaced : b.outboundNames "logs" = ["waggle_logs", "waggle_events"] := by
      unfold Binding.outboundNames Binding.outbound
      rw [hdefinition, hlead]
      decide
    rwa [hsurfaced]

theorem databasePrefix_eventLogs (h : BindsEventLogs f) {b : Binding Unit}
    (hb : b ∈ f.table.bindings) : b.databasePrefix = "" ∨ b.databasePrefix = "waggle_" := by
  have hmem := List.mem_map_of_mem (f := fun b => (b.definition, b.databasePrefix)) hb
  rw [h.bindings] at hmem
  rcases List.mem_cons.mp hmem with heq | hmem
  · exact .inl (Prod.mk.inj heq).2
  · exact .inr (Prod.mk.inj (List.mem_singleton.mp hmem)).2

theorem lookup_agrees_waggle_logs :
    ∃ f : Federation Unit,
      Federation.start (fun _ => .ok ()) {} (.ofDefinitions eventLogs) = .ok f ∧
      f.moment.Course [] f.moment ∧
      let v := (survey f.statuses 0 f.table).1
      let clients := fun _ => (oneDatabase "logs").client
      v.Prompt clients (fun _ => ["logs"]) ∧ strip "waggle_logs" = "waggle_logs" ∧
        '*' ∉ "waggle_logs".toList ∧ '.' ∉ "waggle_logs".toList ∧ '|' ∉ "waggle_logs".toList ∧
        ("waggle_logs" ∈ (v.databases clients (some "waggle_logs")).items ↔
          "waggle_logs" ∈ (v.allDatabases clients).items) := by
  obtain ⟨f, hstart, hbinds⟩ := start_eventLogs
  have hstrip : strip "waggle_logs" = "waggle_logs" := by decide
  have hstar : '*' ∉ "waggle_logs".toList := by decide
  have hdot : '.' ∉ "waggle_logs".toList := by decide
  have hbar : '|' ∉ "waggle_logs".toList := by decide
  have hprompt := prompt_eventLogs (survey f.statuses 0 f.table).1
  have hagrees := lookup_agrees_iff hstart .refl hprompt hstrip hstar hdot hbar
  refine ⟨f, hstart, .refl, hprompt, hstrip, hstar, hdot, hbar, hagrees.2.mpr fun _ => ?_⟩
  obtain ⟨b, hlists, hlead⟩ := lists_eventLogs hbinds List.mem_cons_self
  refine ⟨b, "logs", hlists, ?_⟩
  unfold Survey.AsksFor Binding.outbound
  rw [if_neg fun h => absurd h.2 (by decide), hlead]
  decide

/-- A name under which the logs are listed does not find them. -/
theorem events_listed_not_found :
    ∃ f : Federation Unit,
      Federation.start (fun _ => .ok ()) {} (.ofDefinitions eventLogs) = .ok f ∧
      let v := (survey f.statuses 0 f.table).1
      let clients := fun _ => (oneDatabase "logs").client
      v.Prompt clients (fun _ => ["logs"]) ∧ strip "waggle_events" = "waggle_events" ∧
        '*' ∉ "waggle_events".toList ∧ '.' ∉ "waggle_events".toList ∧
        '|' ∉ "waggle_events".toList ∧ "waggle_events" ∈ (v.allDatabases clients).items ∧
        "waggle_events" ∉ (v.databases clients (some "waggle_events")).items := by
  obtain ⟨f, hstart, hbinds⟩ := start_eventLogs
  have hstrip : strip "waggle_events" = "waggle_events" := by decide
  have hstar : '*' ∉ "waggle_events".toList := by decide
  have hdot : '.' ∉ "waggle_events".toList := by decide
  have hbar : '|' ∉ "waggle_events".toList := by decide
  have hprompt := prompt_eventLogs (survey f.statuses 0 f.table).1
  refine ⟨f, hstart, hprompt, hstrip, hstar, hdot, hbar, ?_, fun hfound => ?_⟩
  · obtain ⟨b, hlists, -⟩ := lists_eventLogs hbinds (List.mem_cons_of_mem _ List.mem_cons_self)
    exact (Survey.mem_allDatabases_iff hprompt _).mpr ⟨b, "logs", hlists⟩
  · have hforwarded : (survey f.statuses 0 f.table).1.scope = .forwarded → _ :=
      databasePrefix_eq_of_forwarded (Federation.coherent_start hstart)
    obtain ⟨b, database, hlists, hasks⟩ :=
      (Survey.mem_databases_iff hprompt hforwarded hstrip hstar hdot hbar).mp hfound
    unfold Survey.AsksFor Binding.outbound at hasks
    rw [if_neg fun h => absurd h.2 (by decide), List.mem_singleton.mp hlists.held] at hasks
    -- The metastores are asked for a database whose own name would be that of the events.
    rcases databasePrefix_eventLogs hbinds ((mem_available_eventLogs hbinds).mp hlists.available)
      with hlead | hlead <;>
    · rw [hlead] at hasks
      exact absurd hasks (by decide)

end EventLogs

end Catalog

end MetastoreFederation
