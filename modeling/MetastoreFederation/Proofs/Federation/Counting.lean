import MetastoreFederation.Proofs.Federation.Writing

/-!
What the counters of use count, through everything that a federation is used for. A metastore is
counted each time when it was found to serve a request, and all metastores together are counted each
time when a request goes to all of them. Since both are kept under names, a metastore that has the
name of all is counted with them.
-/

set_option autoImplicit false
set_option relaxedAutoImplicit false

namespace MetastoreFederation

open Metastore Request Routing
open Pattern.Qualifier (strip)

variable {κ : Type}

namespace Routing

/-- What a routing table is asked for: the metastore that serves a name, the primary, or all. -/
inductive Inquiry
  | server (database : String)
  | primary
  | everyone

/-- What a routing table gives: a binding, of the metastore with the name, all of them, or none. -/
inductive Given
  | one (name : String)
  | everyone
  | nothing
deriving DecidableEq

/-- What the table gives for an inquiry. -/
def Table.given (t : Table κ) : Inquiry → Given
  | .server database => (t.resolve database).toOption.elim .nothing fun found => .one found.1.name
  | .primary => t.resolvePrimary.toOption.elim .nothing fun found => .one found.1.name
  | .everyone => .everyone

namespace Table

variable {t u : Table κ} {database : String} {b : Binding κ}

theorem given_server_of_ok (h : t.resolve database = .ok (b, u)) :
    t.given (.server database) = .one b.name := by
  change (t.resolve database).toOption.elim _ _ = _
  rw [h]
  rfl

theorem given_server_of_error {cause : RoutingError} (h : t.resolve database = .error cause) :
    t.given (.server database) = .nothing := by
  change (t.resolve database).toOption.elim _ _ = _
  rw [h]
  rfl

theorem given_primary_of_ok (h : t.resolvePrimary = .ok (b, u)) :
    t.given .primary = .one b.name := by
  change t.resolvePrimary.toOption.elim _ _ = _
  rw [h]
  rfl

theorem given_primary_of_error {cause : RoutingError} (h : t.resolvePrimary = .error cause) :
    t.given .primary = .nothing := by
  change t.resolvePrimary.toOption.elim _ _ = _
  rw [h]
  rfl

end Table

namespace Usage

/-- The counters after something was given. -/
def noting (u : Usage) : Given → Usage
  | .one name => u.record name
  | .everyone => u.record everyone
  | .nothing => u

theorem count_noting (u : Usage) (given : Given) (name : String) :
    (u.noting given).count name = u.count name + [given].count (.one name) +
      if name = everyone then [given].count .everyone else 0 := by
  cases given with
  | one other =>
    rw [List.count_singleton, List.count_singleton, noting, count_record]
    simp only [beq_iff_eq, Given.one.injEq, reduceCtorEq, if_false, ite_self, Nat.add_zero,
      eq_comm (a := name)]
  | everyone => simp [noting]
  | nothing => simp [noting]

/-- All that was given is counted, each thing under its name. -/
theorem count_foldl_noting (u : Usage) (all : List Given) (name : String) :
    (all.foldl noting u).count name = u.count name + all.count (.one name) +
      if name = everyone then all.count .everyone else 0 := by
  induction all generalizing u with
  | nil => simp
  | cons given all ih =>
    have hcount (g : Given) : (given :: all).count g = [given].count g + all.count g := by
      rw [← List.singleton_append]
      exact List.count_append
    rw [List.foldl_cons, ih, count_noting, hcount, hcount]
    split_ifs <;> omega

end Usage

end Routing

namespace Federation

/-- What a federation is used for: an operation, an inquiry at its routing table, or a change that
its routing table alone is told of. -/
inductive Use (κ : Type)
  | operation (o : Operation κ)
  | inquiry (i : Inquiry)
  | event (create : Factory κ) (e : Event)

/-- The inquiry that an operation makes. Names lose their qualifiers before. -/
def Operation.inquiry? : Operation κ → Option Inquiry
  | .allTables _ database => some (.server (strip database))
  | .execute _ request => some (.server (strip request.database))
  | .createDatabase .. => some .primary
  | .allDatabases _ | .databases .. | .tableMeta .. | .setGroups .. => some .everyone
  | .change .. | .get .. | .getAll _ | .wait .. | .startPolling | .stop _ => none

def Use.inquiry? : Use κ → Option Inquiry
  | operation o => o.inquiry?
  | inquiry i => some i
  | event .. => none

/-- The federation after an inquiry at its routing table. -/
def inquire (f : Federation κ) : Inquiry → Federation κ
  | .server database =>
    { f with table := (f.table.resolve database).toOption.elim f.table Prod.snd }
  | .primary => { f with table := f.table.resolvePrimary.toOption.elim f.table Prod.snd }
  | .everyone =>
    { f with table := (Catalog.survey f.statuses f.settings.requestTimeout.millis f.table).2 }

/-- The federation after a use. -/
def perform (f : Federation κ) : Use κ → Federation κ
  | .operation o => f.operate o
  | .inquiry i => f.inquire i
  | .event create e => (f.notify create e).toOption.getD f

/-- What the routing table gives in the course of a use, if it is asked for something. -/
def given? (f : Federation κ) (use : Use κ) : Option Given := use.inquiry?.map f.table.given

/-- Everything that the routing table gives, one use after another. -/
def allGiven (f : Federation κ) : List (Use κ) → List Given
  | [] => []
  | use :: uses => (f.given? use).toList ++ (f.perform use).allGiven uses

/-- A metastore with the name is registered at first, or after some of the uses. -/
def Registers (f : Federation κ) (uses : List (Use κ)) (name : String) : Prop :=
  ∃ before, before <+: uses ∧
    ∃ b ∈ (before.foldl perform f).table.bindings, b.name = name

variable {f : Federation κ}

section Step

theorem usage_inquire (f : Federation κ) (i : Inquiry) :
    (f.inquire i).table.usage = f.table.usage.noting (f.table.given i) := by
  cases i with
  | server database =>
    change ((f.table.resolve database).toOption.elim f.table Prod.snd).usage = _
    cases hresolve : f.table.resolve database with
    | error cause =>
      rw [Table.given_server_of_error hresolve]
      rfl
    | ok found =>
      obtain ⟨b, u⟩ := found
      rw [Table.given_server_of_ok hresolve]
      obtain rfl := (Table.resolve_eq_ok_iff.mp hresolve).2
      rfl
  | primary =>
    change (f.table.resolvePrimary.toOption.elim f.table Prod.snd).usage = _
    cases hprimary : f.table.resolvePrimary with
    | error cause =>
      rw [Table.given_primary_of_error hprimary]
      rfl
    | ok found =>
      obtain ⟨b, u⟩ := found
      rw [Table.given_primary_of_ok hprimary]
      obtain rfl := (Catalog.resolvePrimary_eq_ok_iff.mp hprimary).2
      rfl
  | everyone => rfl

/-- Of a request on one database only the resolution counts, whatever comes of the request. -/
theorem usage_serve {α : Type} {t : Table κ} {database : String} {table : Option String}
    {access : Access} {next : Binding κ → Table κ → Catalog.Served κ α}
    (hnext : ∀ b u, (next b u).table = u) :
    (Catalog.serve t database table access next).table.usage =
      t.usage.noting (t.given (.server database)) := by
  unfold Catalog.serve
  cases hresolve : t.resolve database with
  | error cause =>
    rw [Table.given_server_of_error hresolve]
    rfl
  | ok found =>
    obtain ⟨b, u⟩ := found
    rw [Table.given_server_of_ok hresolve]
    obtain rfl := (Table.resolve_eq_ok_iff.mp hresolve).2
    dsimp only
    split
    · rfl
    · rw [hnext]
      rfl

theorem usage_createDatabase (clients : κ → Client) (t : Table κ) (database : String)
    (payload : Document.Datum) :
    (Catalog.createDatabase clients t database payload).table.usage =
      t.usage.noting (t.given .primary) := by
  unfold Catalog.createDatabase
  cases hprimary : t.resolvePrimary with
  | error cause =>
    rw [Table.given_primary_of_error hprimary]
    rfl
  | ok found =>
    obtain ⟨b, u⟩ := found
    rw [Table.given_primary_of_ok hprimary]
    obtain rfl := (Catalog.resolvePrimary_eq_ok_iff.mp hprimary).2
    dsimp only
    split
    · rfl
    · let name := b.inbound (strip database)
      let served := Catalog.forward clients (t.countUse b) b
        (.execute (Catalog.creation name payload)) id
      have hserved : served.table.usage = t.usage.noting (.one b.name) := rfl
      rcases served.outcome with ⟨time, cause | answer⟩ | time | _
      all_goals exact hserved

theorem usage_survey {α : Type} (s : Surroundings κ) (f : Federation κ)
    (request : (κ → Client) → Survey κ → Survey.Report κ α) :
    (f.survey s request).after.table.usage = f.table.usage.noting .everyone := by
  unfold survey Catalog.survey
  dsimp only
  split_ifs <;> rfl

theorem usage_notify {create : Factory κ} {event : Event} {t u : Table κ}
    (hnotify : t.notify create event = .ok u) : u.usage = t.usage := by
  obtain ⟨r, -, rfl⟩ := Table.notify_eq_ok_iff.mp hnotify
  rfl

theorem usage_asked {create : Factory κ} {request : Administration.Request} {g : Federation κ}
    (hasked : f.Asked create request g) : g.table.usage = f.table.usage := by
  cases hasked with
  | idle => rfl
  | refused => rfl
  | made plans takes => exact usage_notify takes

/-- The counters after an operation tell what the operation was given. -/
theorem usage_operate (f : Federation κ) (o : Operation κ) :
    (f.operate o).table.usage =
      (o.inquiry?.map f.table.given).elim f.table.usage f.table.usage.noting := by
  cases o with
  | change create request => exact usage_asked (asked create f request)
  | get s name =>
    unfold operate get
    dsimp only
    split <;> rfl
  | getAll s => rfl
  | allTables s database =>
    unfold operate
    rw [table_serve]
    exact usage_serve fun _ _ => rfl
  | execute s request =>
    unfold operate
    rw [table_serve]
    exact usage_serve fun _ _ => rfl
  | createDatabase s database payload =>
    unfold operate
    rw [table_serve]
    exact usage_createDatabase ..
  | allDatabases s => exact usage_survey s f _
  | databases s pattern => exact usage_survey s f _
  | tableMeta s databasePattern tablePattern types => exact usage_survey s f _
  | setGroups s user groups => exact usage_survey s f _
  | wait s duration => rfl
  | startPolling =>
    unfold operate startPolling
    dsimp only
    split <;> rfl
  | stop s =>
    unfold operate stop
    dsimp only
    split <;> rfl

/-- The counters after a use tell what was given in its course, and nothing else changes them. -/
theorem usage_perform (f : Federation κ) (use : Use κ) :
    (f.perform use).table.usage =
      (f.given? use).elim f.table.usage f.table.usage.noting := by
  cases use with
  | operation o => exact usage_operate f o
  | inquiry i => exact usage_inquire f i
  | event create e =>
    change ((f.notify create e).toOption.getD f).table.usage = f.table.usage
    unfold notify
    cases hnotify : f.table.notify create e with
    | error cause => rfl
    | ok t => exact usage_notify hnotify

end Step

section Run

theorem usage_foldl_perform (f : Federation κ) (uses : List (Use κ)) :
    (uses.foldl perform f).table.usage = (f.allGiven uses).foldl Usage.noting f.table.usage := by
  induction uses generalizing f with
  | nil => rfl
  | cons use uses ih =>
    rw [List.foldl_cons, ih, usage_perform, allGiven, List.foldl_append]
    cases f.given? use <;> rfl

/-- A federation starts with nothing counted. -/
theorem usage_start {create : Factory κ} {settings : Settings} {inventory : Inventory}
    (hstart : start create settings inventory = .ok f) : f.table.usage = .empty := by
  unfold start at hstart
  split_ifs at hstart
  dsimp only at hstart
  split at hstart
  · cases hstart
  · next hresult =>
    cases hstart
    obtain ⟨r, -, hlisteners⟩ := registerAll_of_replay hresult
    rw [hlisteners]
    rfl

/-- Each counter tells how often its metastore was given, and the one for all how often all were. -/
structure Truthful (f : Federation κ) (uses : List (Use κ)) : Prop where
  each : ∀ name, f.Registers uses name →
    (uses.foldl perform f).table.usage.count name = (f.allGiven uses).count (.one name)
  everyone : (uses.foldl perform f).table.usage.count Usage.everyone =
    (f.allGiven uses).count .everyone

/-- Whatever a federation is used for, each counter holds how often a binding of the metastore with
its name was given, and the one with the name of all holds besides how often all were given. So the
counters are truthful just where no metastore with the name of all was given, and none was
registered if all were given. Where nothing was given, no counter changes. -/
theorem count_usage {create : Factory κ} {settings : Settings} {inventory : Inventory}
    (hstart : start create settings inventory = .ok f) (uses : List (Use κ)) :
    (∀ name, (uses.foldl perform f).table.usage.count name =
      (f.allGiven uses).count (.one name) +
        if name = Usage.everyone then (f.allGiven uses).count .everyone else 0) ∧
      (f.Truthful uses ↔ (f.allGiven uses).count (.one Usage.everyone) = 0 ∧
        (f.Registers uses Usage.everyone → (f.allGiven uses).count .everyone = 0)) ∧
      ∀ use, (uses.foldl perform f).given? use = some .nothing →
        ((uses.foldl perform f).perform use).table.usage = (uses.foldl perform f).table.usage := by
  have hcount (name : String) := Usage.count_foldl_noting f.table.usage (f.allGiven uses) name
  rw [usage_start hstart] at hcount
  simp only [Usage.count_empty, Nat.zero_add] at hcount
  rw [← usage_start hstart, ← usage_foldl_perform] at hcount
  have hall := hcount Usage.everyone
  rw [if_pos rfl] at hall
  refine ⟨hcount, ⟨fun htruthful => ?_, fun ⟨hunnamed, hunregistered⟩ => ?_⟩,
    fun use hnothing => ?_⟩
  · have heveryone := htruthful.everyone
    refine ⟨by omega, fun hregisters => ?_⟩
    have heach := htruthful.each _ hregisters
    omega
  · refine ⟨fun name hregisters => ?_, by omega⟩
    rw [hcount]
    split_ifs with hname
    · rw [hunregistered (hname ▸ hregisters), Nat.add_zero]
    · rw [Nat.add_zero]
  · rw [usage_perform, hnothing]
    rfl

/-- Clients that do whatever they are told, and metastores that are there. -/
def calm : Surroundings Unit where
  create _ := .ok ()
  clients _ := Catalog.obedient
  probe _ := .answered 0 .available
  patience := 1000

/-- A table of the metastore with a prefix is asked for, a database of the primary, and all
databases. Then the primary is the only metastore that is left. -/
def someUses : List (Use Unit) :=
  [.operation (.execute calm { operation := "get_table", database := "@hive#WAGGLE_logs" }),
    .inquiry (.server "sales"), .operation (.allDatabases calm),
    .event calm.create (.unregister "waggle"), .inquiry (.server "waggle_logs")]

theorem count_usage_someUses :
    ∃ f, start calm.create {} (.ofDefinitions Catalog.creatorAndWaggle) = .ok f ∧
      f.allGiven someUses = [.one "waggle", .one "primary", .everyone, .one "primary"] ∧
      (someUses.foldl perform f).table.usage.count "waggle" = 1 ∧
      (someUses.foldl perform f).table.usage.count "primary" = 2 ∧
      (someUses.foldl perform f).table.usage.count Usage.everyone = 1 := by
  have hcomputed : (start calm.create {} (.ofDefinitions Catalog.creatorAndWaggle)).toOption.map
      (fun f => f.allGiven someUses) =
        some [.one "waggle", .one "primary", .everyone, .one "primary"] := by decide +kernel
  cases hstart : start calm.create {} (.ofDefinitions Catalog.creatorAndWaggle) with
  | error cause =>
    rw [hstart] at hcomputed
    cases hcomputed
  | ok f =>
    rw [hstart] at hcomputed
    have hgiven : f.allGiven someUses =
        [.one "waggle", .one "primary", .everyone, .one "primary"] := Option.some.inj hcomputed
    have hcount := (count_usage hstart someUses).1
    rw [hgiven] at hcount
    exact ⟨f, rfl, hgiven, hcount "waggle", hcount "primary", hcount Usage.everyone⟩

/-- A metastore with the name of all is counted with them: it was given once, and all were given
once, but its counter is at two. -/
theorem not_truthful_of_metastore_all :
    ∃ f, start (fun _ => .ok ()) {} (.ofDefinitions [{ name := "all", addresses := "a" }]) =
        .ok f ∧
      let uses : List (Use Unit) := [.inquiry (.server "all_logs"), .inquiry .everyone]
      f.Registers uses "all" ∧ f.allGiven uses = [.one "all", .everyone] ∧
        (uses.foldl perform f).table.usage.count "all" = 2 ∧ ¬ f.Truthful uses := by
  let uses : List (Use Unit) := [.inquiry (.server "all_logs"), .inquiry .everyone]
  have hcomputed : (start (fun _ => .ok ()) {}
      (.ofDefinitions [{ name := "all", addresses := "a" }])).toOption.map (fun f =>
        (f.table.bindings.map Binding.name, f.allGiven uses,
          (uses.foldl perform f).table.usage.count "all")) =
        some (["all"], [.one "all", .everyone], 2) := by decide +kernel
  cases hstart : start (fun _ => .ok ()) {}
      (.ofDefinitions [{ name := "all", addresses := "a" }]) with
  | error cause =>
    rw [hstart] at hcomputed
    cases hcomputed
  | ok f =>
    rw [hstart] at hcomputed
    obtain ⟨hnames, hcomputed⟩ := Prod.mk.inj (Option.some.inj hcomputed)
    obtain ⟨hgiven, hcount⟩ := Prod.mk.inj hcomputed
    have hname : "all" ∈ f.table.bindings.map Binding.name := by
      rw [hnames]
      exact List.mem_singleton_self _
    obtain ⟨b, hb, hname⟩ := List.mem_map.mp hname
    have hregisters : f.Registers uses "all" := ⟨[], List.nil_prefix, b, hb, hname⟩
    refine ⟨f, rfl, hregisters, hgiven, hcount, fun htruthful => ?_⟩
    have heach := htruthful.each "all" hregisters
    rw [hcount, hgiven] at heach
    exact absurd heach (by decide)

end Run

end Federation

end MetastoreFederation
