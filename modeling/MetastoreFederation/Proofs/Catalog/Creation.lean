import MetastoreFederation.Proofs.Catalog.Forwarding
import MetastoreFederation.Proofs.Federation.Course
import MetastoreFederation.Proofs.Routing.Definitions

/-!
What is created, and how it is found afterwards. The primary creates every database, whatever its
name, but a name leads to the primary only if no metastore claims it.
-/

set_option autoImplicit false
set_option relaxedAutoImplicit false

namespace MetastoreFederation

open Metastore Request Routing
open Pattern.Qualifier (strip bare Qualified)

variable {κ : Type}

/-- A call or a request ends with an answer that is no error. -/
def Request.Outcome.Succeeds {ε α : Type} : Outcome (Except ε α) → Prop
  | .answered _ (.ok _) => True
  | _ => False

instance {ε α : Type} : DecidablePred (Outcome.Succeeds (ε := ε) (α := α))
  | .answered _ (.ok _) => .isTrue trivial
  | .answered _ (.error _) => .isFalse id
  | .lost _ => .isFalse id
  | .silent => .isFalse id

/-- No metastore claims a name, by its prefix or by its list. -/
def Routing.Table.Unclaimed (t : Table κ) (name : String) : Prop :=
  ∀ c ∈ t.bindings, ¬ Claims t.resolution c name

section Primary

namespace Routing.Registry.Coherent

variable {r : Registry κ} {b : Binding κ} {database : String}

/-- The primary claims no name. -/
theorem not_claims_of_isPrimary (h : r.Coherent) (hb : b ∈ r.snapshot.bindings)
    (hrole : b.isPrimary = true) : ¬ Claims r.resolution b database := by
  intro hclaims
  have hfederated : b.isPrimary = false := by
    cases hmode : r.resolution with
    | prefixed =>
      rw [hmode] at hclaims
      have hlead := hclaims.1
      rw [h.databasePrefix b hb, hmode] at hlead
      exact isPrimary_eq_false_of_prefixed hlead
    | manual =>
      rw [hmode] at hclaims
      exact hclaims.1
  exact Bool.false_ne_true (hfederated.symm.trans hrole)

/-- The primary serves what nobody claims. -/
theorem serving_eq_ok_primary_iff (h : r.Coherent) (hprimary : r.snapshot.primary = some b) :
    r.snapshot.serving r.resolution database = .ok b ↔
      ∀ c ∈ r.snapshot.bindings, ¬ Claims r.resolution c database := by
  obtain ⟨hb, hrole⟩ := h.primary_eq_some_iff.mp hprimary
  constructor
  · intro hserving
    cases (h.serving_eq_iff_scan database _).mp hserving with
    | owner howns => exact absurd (claims_of_owns howns).2 (h.not_claims_of_isPrimary hb hrole)
    | primary hunclaimed => exact hunclaimed
  · intro hunclaimed
    exact (h.serving_eq_iff_scan database _).mpr (.primary hunclaimed hb hrole)

end Routing.Registry.Coherent

end Primary

namespace Catalog

variable {clients : κ → Client} {t : Table κ} {b : Binding κ} {database : String}
  {payload : Document.Datum}

/-- The creation of a database through the primary: nothing but this is asked for, and note is taken
of it. -/
structure CreatedThrough (t : Table κ) (b : Binding κ) (database : String)
    (payload : Document.Datum) (served : Served κ Document.Datum) : Prop where
  primary : t.registry.snapshot.primary = some b
  permitted : b.gate.mayCreate = true
  calls : served.calls = [(b.client, .execute (creation (b.inbound (strip database)) payload))]
  table : served.table =
    { t.countUse b with created := t.created.note b (b.inbound (strip database)) }

theorem resolvePrimary_eq_ok_iff {u : Table κ} :
    t.resolvePrimary = .ok (b, u) ↔ t.registry.snapshot.primary = some b ∧ u = t.countUse b := by
  unfold Table.resolvePrimary
  cases t.registry.snapshot.primary with
  | none => exact ⟨nofun, fun h => nomatch h.1⟩
  | some c =>
    constructor
    · intro h
      cases h
      exact ⟨rfl, rfl⟩
    · rintro ⟨h, rfl⟩
      cases h
      rfl

/-- A database is created, or what was created stays the same. -/
theorem createDatabase_cases (clients : κ → Client) (t : Table κ) (database : String)
    (payload : Document.Datum) :
    ((createDatabase clients t database payload).outcome.Succeeds ∧
        ∃ b, CreatedThrough t b database payload (createDatabase clients t database payload)) ∨
      ¬ (createDatabase clients t database payload).outcome.Succeeds ∧
        (createDatabase clients t database payload).table.created = t.created := by
  unfold createDatabase
  cases hresolve : t.resolvePrimary with
  | error e => exact .inr ⟨id, rfl⟩
  | ok found =>
    obtain ⟨b, u⟩ := found
    obtain ⟨hprimary, rfl⟩ := resolvePrimary_eq_ok_iff.mp hresolve
    dsimp only
    by_cases hdenied : (!b.gate.mayCreate) = true
    · rw [if_pos hdenied]
      exact .inr ⟨id, rfl⟩
    · rw [if_neg hdenied]
      have hpermitted : b.gate.mayCreate = true := by simpa using hdenied
      let name := b.inbound (strip database)
      let served := forward clients (t.countUse b) b (.execute (creation name payload)) id
      rcases houtcome : served.outcome with ⟨time, e | answer⟩ | time | _ <;>
        simp only [served, name] at houtcome <;> simp only [houtcome]
      · exact .inr ⟨id, rfl⟩
      · exact .inl ⟨trivial, b, hprimary, hpermitted, rfl, rfl⟩
      · exact .inr ⟨id, rfl⟩
      · exact .inr ⟨id, rfl⟩

/-- A request is forwarded through the binding that serves its database, under a local name. -/
structure Forwards (clients : κ → Client) (t : Table κ) (request : Operation) (b : Binding κ)
    (database : String) : Prop where
  resolved : t.resolve (strip request.database) = .ok (b, t.countUse b)
  served : execute clients t request =
    forward clients (t.countUse b) b (.execute { request with database }) id

theorem serve_eq_of_admitted {α : Type} {table : Option String} {access : Access}
    {next : Binding κ → Table κ → Served κ α}
    (hresolved : t.resolve database = .ok (b, t.countUse b))
    (hadmitted : Admitted t.created b (checkedName b database) table access) :
    serve t database table access next = next b (t.countUse b) := by
  have hallowed : checkAllowed (t.countUse b).created b database table access = .ok () :=
    (checkAllowed_eq_ok_iff ..).mpr hadmitted
  unfold serve
  rw [hresolved]
  dsimp only
  rw [hallowed]

theorem forwards_iff {request : Operation} :
    Forwards clients t request b (b.inbound (strip request.database)) ↔
      t.resolve (strip request.database) = .ok (b, t.countUse b) ∧
        Admitted t.created b (checkedName b (strip request.database)) request.table
          request.access := by
  constructor
  · rintro ⟨hresolved, hserved⟩
    have hcall : (b.client, .execute { request with
        database := b.inbound (strip request.database) }) ∈
          (execute clients t request).calls := by
      rw [hserved]
      exact List.mem_singleton_self _
    obtain ⟨c, hresolved', hadmitted, -⟩ := mem_calls_execute_iff.mp hcall
    obtain ⟨rfl, -⟩ := Prod.mk.inj (Except.ok.inj (hresolved'.symm.trans hresolved))
    exact ⟨hresolved, hadmitted⟩
  · rintro ⟨hresolved, hadmitted⟩
    refine ⟨hresolved, ?_⟩
    exact serve_eq_of_admitted hresolved hadmitted

variable {create : Factory κ} {settings : Settings} {inventory : Inventory} {f : Federation κ}

/-- In every federation, whatever has happened to it, a database that was created is resolved to the
primary just where nobody claims its name. Where one stripping is enough for the name, reads by it
go to the primary, under the local name it was created by, just where the primary shows it besides.
-/
theorem forwards_after_creation (hstart : Federation.start create settings inventory = .ok f)
    {trace : List Federation.Happening} {p : Federation.Moment κ}
    (hcourse : f.moment.Course trace p)
    (hcreated : (createDatabase clients p.table database payload).outcome.Succeeds) :
    let u := (createDatabase clients p.table database payload).table
    ∃ b, CreatedThrough p.table b database payload
        (createDatabase clients p.table database payload) ∧
      (u.resolve database = .ok (b, u.countUse b) ↔ p.table.Unclaimed (strip database)) ∧
      (¬ Qualified (bare database.toList) →
        ∀ (clients : κ → Client) (request : Operation), request.database = database →
          request.access = .read →
          (Forwards clients u request b (b.inbound (strip database)) ↔
            p.table.Unclaimed (strip database) ∧
              b.showsDatabase (b.inbound (strip database)) = true ∧
              ∀ table ∈ request.table,
                b.showsTable (b.inbound (strip database)) table = true)) := by
  have hcoherent : p.table.registry.Coherent :=
    Federation.Moment.coherent_course hcourse (Federation.coherent_start hstart)
  rcases createDatabase_cases clients p.table database payload with
    ⟨-, b, hthrough⟩ | ⟨hnone, -⟩
  · refine ⟨b, hthrough, ?_, ?_⟩
    · rw [Table.resolve_eq_ok_iff, and_iff_left rfl, hthrough.table]
      exact hcoherent.serving_eq_ok_primary_iff hthrough.primary
    · rintro hqualified clients request rfl hread
      have hstrip := Pattern.Qualifier.strip_strip_of_not_qualified hqualified
      rw [forwards_iff, Table.resolve_eq_ok_iff, and_iff_left rfl, hstrip, hthrough.table]
      refine and_congr (hcoherent.serving_eq_ok_primary_iff hthrough.primary) ?_
      unfold checkedName
      rw [hstrip, hread]
      exact ⟨fun h => ⟨h.shown, h.tableShown⟩, fun h => ⟨h.1, h.2, nofun⟩⟩
  · exact absurd hcreated hnone

/-- A client that does whatever it is told. -/
def obedient : Client where
  call
    | .execute _ => .answered 0 (.ok .null)
    | _ => .silent
  ping := .answered 0 (.ok ())

theorem forwards_after_creation_logs :
    ∃ f : Federation Unit,
      Federation.start (fun _ => .ok ()) { resolution := .manual }
        (.ofDefinitions [solePrimary "logs"]) = .ok f ∧
      f.moment.Course [] f.moment ∧
      let served := createDatabase (fun _ => obedient) f.table "@hive#LOGS" .null
      served.outcome.Succeeds ∧ ¬ Qualified (bare "@hive#LOGS".toList) ∧
      ∃ b, CreatedThrough f.table b "@hive#LOGS" .null served ∧
        served.table.resolve "@hive#LOGS" = .ok (b, served.table.countUse b) ∧
        Forwards (fun _ => obedient) served.table
          { operation := "get_database", database := "@hive#LOGS" } b
          (b.inbound (strip "@hive#LOGS")) := by
  have hstart := start_solePrimary .manual () "logs"
  have hplain : ¬ Qualified (bare "@hive#LOGS".toList) :=
    (Pattern.Qualifier.bare_eq_self_iff (by decide)).mp (by decide)
  have hcreated : (createDatabase (fun _ => obedient)
      (soleFederation .manual () "logs").moment.table "@hive#LOGS" .null).outcome.Succeeds := by
    decide
  obtain ⟨b, hthrough, hresolved, hread⟩ := forwards_after_creation hstart .refl hcreated
  have hb : b = soleBinding () "logs" := (Option.some.inj hthrough.primary).symm
  have hunclaimed : (soleTable .manual () "logs").Unclaimed (strip "@hive#LOGS") := by
    intro c hc hclaims
    obtain rfl := List.mem_singleton.mp hc
    exact absurd hclaims.1 (by decide)
  refine ⟨_, hstart, .refl, hcreated, hplain, b, hthrough, hresolved.mpr hunclaimed,
    (hread hplain _ _ rfl rfl).mpr ⟨hunclaimed, ?_, nofun⟩⟩
  rw [hb, inbound_soleBinding, showsDatabase_soleBinding]
  decide

/-- A primary that creates databases, and a metastore with a prefix. -/
def creatorAndWaggle : List Definition :=
  [{ name := "primary", role := .primary, addresses := "a", policy := .writeAndCreate },
    { name := "waggle", addresses := "b" }]

/-- What the primary creates under the prefix of another metastore is looked for there, and what it
creates but does not show is not read. -/
theorem not_forwards_after_creation :
    (∃ f : Federation Unit,
      Federation.start (fun _ => .ok ()) {} (.ofDefinitions creatorAndWaggle) = .ok f ∧
      let served := createDatabase (fun _ => obedient) f.table "waggle_x" .null
      served.outcome.Succeeds ∧
        ((served.table.resolve "waggle_x").toOption.map fun r => (r.1.name, r.1.isPrimary)) =
          some ("waggle", false)) ∧
      Federation.start (fun _ => .ok ()) { resolution := .manual }
          (.ofDefinitions [solePrimary "logs"]) = .ok (soleFederation .manual () "logs") ∧
      let served := createDatabase (fun _ => obedient) (soleTable .manual () "logs") "hives" .null
      served.outcome.Succeeds ∧
        (execute (fun _ => obedient) served.table
          { operation := "get_database", database := "hives" }).calls = [] := by
  refine ⟨?_, start_solePrimary .manual () "logs", by decide, by decide⟩
  have hcomputed : ((Federation.start (fun _ => .ok ()) {}
      (.ofDefinitions creatorAndWaggle)).toOption.map fun f =>
        let served := createDatabase (fun _ : Unit => obedient) f.table "waggle_x" .null
        (decide served.outcome.Succeeds,
          (served.table.resolve "waggle_x").toOption.map fun r => (r.1.name, r.1.isPrimary))) =
      some (true, some ("waggle", false)) := by decide +kernel
  cases hstart : Federation.start (fun _ => .ok ()) {} (.ofDefinitions creatorAndWaggle) with
  | error cause =>
    rw [hstart] at hcomputed
    cases hcomputed
  | ok f =>
    rw [hstart] at hcomputed
    obtain ⟨hcreated, hresolved⟩ := Prod.mk.inj (Option.some.inj hcomputed)
    exact ⟨f, rfl, of_decide_eq_true hcreated, hresolved⟩

end Catalog

end MetastoreFederation
