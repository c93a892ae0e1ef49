import Mathlib.Data.List.Basic
import MetastoreFederation.Federation
import MetastoreFederation.Proofs.Pattern.Stripping
import MetastoreFederation.Proofs.Routing.History

/-!
Whether a request reaches a metastore under the name that was checked. The catalog strips a name
before the routing table strips it again, so the two agree just on the names that one stripping
rids of all qualifiers.
-/

set_option autoImplicit false
set_option relaxedAutoImplicit false

namespace MetastoreFederation.Catalog

open Metastore Request Routing Text
open Pattern.Qualifier (strip bare Qualified)

variable {κ α : Type}

/-- The database that a call names, if it names a single one. -/
def namedDatabase? : Call → Option String
  | .allTables database => some database
  | .execute request => some request.database
  | _ => none

/-- A call goes to the client of the binding that a caller's name leads to, for a database. -/
structure Reaches (t : Table κ) (name : String) (c : κ × Call) (b : Binding κ)
    (database : String) : Prop where
  resolved : t.resolve (strip name) = .ok (b, t.countUse b)
  client : c.1 = b.client
  named : namedDatabase? c.2 = some database

/-- A call reaches its metastore under the name for which access was found to be admitted. -/
def Checked (t : Table κ) (name : String) (table : Option String) (access : Access)
    (c : κ × Call) : Prop :=
  ∃ b, Reaches t name c b (checkedName b (strip name)) ∧
    Admitted t.created b (checkedName b (strip name)) table access

/-- A call reaches its metastore under a name to which access is not admitted. -/
def Slipped (t : Table κ) (name : String) (table : Option String) (access : Access)
    (c : κ × Call) : Prop :=
  ∃ b database, Reaches t name c b database ∧ ¬ Admitted t.created b database table access

/-- A call has one name, to which access either is admitted or is not. -/
theorem Checked.not_slipped {t : Table κ} {name : String} {table : Option String}
    {access : Access} {c : κ × Call} (h : Checked t name table access c) :
    ¬ Slipped t name table access c := by
  rintro ⟨b, database, hreaches, hdenied⟩
  obtain ⟨b', hchecked, hadmitted⟩ := h
  obtain ⟨rfl, -⟩ := Prod.mk.inj (Except.ok.inj (hchecked.resolved.symm.trans hreaches.resolved))
  obtain rfl := Option.some.inj (hchecked.named.symm.trans hreaches.named)
  exact hdenied hadmitted

/-- What is served makes the calls of the binding that the name leads to, once access is allowed. -/
theorem mem_calls_serve_iff {t : Table κ} {database : String} {table : Option String}
    {access : Access} {next : Binding κ → Table κ → Served κ α} {c : κ × Call} :
    c ∈ (serve t database table access next).calls ↔
      ∃ b, t.resolve database = .ok (b, t.countUse b) ∧
        Admitted t.created b (checkedName b database) table access ∧
        c ∈ (next b (t.countUse b)).calls := by
  unfold serve
  cases hresolve : t.resolve database with
  | error e =>
    refine ⟨fun h => absurd h List.not_mem_nil, ?_⟩
    rintro ⟨b, hb, -⟩
    cases hb
  | ok found =>
    obtain ⟨b, u⟩ := found
    obtain rfl := (Table.resolve_eq_ok_iff.mp hresolve).2
    have hallowed := checkAllowed_eq_ok_iff (t.countUse b).created b database table access
    dsimp only
    cases hcheck : checkAllowed (t.countUse b).created b database table access with
    | error e =>
      refine ⟨fun h => absurd h List.not_mem_nil, ?_⟩
      rintro ⟨b', hb, hadmitted, -⟩
      obtain ⟨rfl, -⟩ := Prod.mk.inj (Except.ok.inj hb)
      exact nomatch hcheck.symm.trans (hallowed.mpr hadmitted)
    | ok =>
      refine ⟨fun h => ⟨b, rfl, hallowed.mp hcheck, h⟩, ?_⟩
      rintro ⟨b', hb, -, hc⟩
      obtain ⟨rfl, -⟩ := Prod.mk.inj (Except.ok.inj hb)
      exact hc

theorem mem_calls_allTables_iff {clients : κ → Client} {t : Table κ} {name : String}
    {c : κ × Call} :
    c ∈ (allTables clients t name).calls ↔
      ∃ b, t.resolve (strip name) = .ok (b, t.countUse b) ∧
        Admitted t.created b (checkedName b (strip name)) none .read ∧
        c = (b.client, .allTables (b.inbound (strip name))) := by
  unfold allTables forward
  rw [mem_calls_serve_iff]
  simp only [List.mem_singleton]

theorem mem_calls_execute_iff {clients : κ → Client} {t : Table κ} {request : Operation}
    {c : κ × Call} :
    c ∈ (execute clients t request).calls ↔
      ∃ b, t.resolve (strip request.database) = .ok (b, t.countUse b) ∧
        Admitted t.created b (checkedName b (strip request.database)) request.table
          request.access ∧
        c = (b.client, .execute
          { request with database := b.inbound (strip request.database) }) := by
  unfold execute forward
  rw [mem_calls_serve_iff]
  simp only [List.mem_singleton]

/-- A primary of which one database is visible, and may be written. -/
def solePrimary (database : String) : Definition :=
  { name := "primary", role := .primary, addresses := "thrift://primary:9083"
    policy := .writeAndCreate, visibleDatabases := some [database] }

/-- The binding of this primary where it is registered first. -/
def soleBinding (client : κ) (database : String) : Binding κ :=
  ⟨0, ⟨0, solePrimary database⟩, client, "", ⟨.writeAndCreate, []⟩, []⟩

/-- The table on which nothing but this primary is registered. -/
def soleTable (resolution : Resolution) (client : κ) (database : String) : Table κ :=
  ⟨⟨resolution, .build [soleBinding client database], 1⟩, .empty, .empty⟩

/-- The federation that starts with this primary alone. -/
def soleFederation (resolution : Resolution) (client : κ) (database : String) : Federation κ :=
  ⟨{ resolution }, soleTable resolution client database,
    .ofInventory (.ofDefinitions [solePrimary database])⟩

private theorem problems_solePrimary (database : String) :
    (solePrimary database).problems = [] := by
  have hproblems : (solePrimary database).problems = (solePrimary "").problems := rfl
  rw [hproblems]
  decide

theorem notify_solePrimary (resolution : Resolution) (client : κ) (database : String) :
    (Table.empty resolution).notify (fun _ => .ok client) (.register ⟨0, solePrimary database⟩) =
      .ok (soleTable resolution client database) := by
  let e : Entry := ⟨0, solePrimary database⟩
  have hbind : (Registry.empty resolution).bind (fun _ => .ok client) e =
      .ok (soleBinding client database) := by
    refine bind_eq_ok_iff.mpr ⟨client, rfl, ?_⟩
    cases resolution <;> rfl
  have hproblems : e.definition.problems = [] := problems_solePrimary database
  have hregister :=
    (Registry.coherent_empty resolution).register_of_compatible hproblems nofun hbind
  exact bind_eq_ok_iff.mpr ⟨_, hregister, rfl⟩

theorem start_solePrimary (resolution : Resolution) (client : κ) (database : String) :
    Federation.start (fun _ => .ok client) { resolution } (.ofDefinitions [solePrimary database]) =
      .ok (soleFederation resolution client database) := by
  have hsettings : ({ resolution } : Settings).problems = [] := by
    cases resolution <;> decide
  have hentries : (Inventory.ofDefinitions [solePrimary database]).entries =
      [⟨0, solePrimary database⟩] := rfl
  have htold : replay (Table.notify fun _ => .ok client) [⟨0, solePrimary database⟩]
      [.empty resolution] = ⟨[soleTable resolution client database],
        notices (.register ⟨0, solePrimary database⟩) 1, .ok ()⟩ := by
    unfold replay Announcement.make
    rw [notify_solePrimary]
    rfl
  unfold Federation.start
  rw [hsettings, if_neg (by decide), hentries, htold]
  rfl

theorem resolve_soleTable (resolution : Resolution) (client : κ) (database name : String) :
    (soleTable resolution client database).resolve name =
      .ok (soleBinding client database,
        (soleTable resolution client database).countUse (soleBinding client database)) := by
  have howner : (Snapshot.build [soleBinding client database]).owner? resolution (strip name) =
      none := by
    cases resolution with
    | prefixed => simp [Snapshot.owner?, Snapshot.ownerByPrefix?, Snapshot.build, soleBinding]
    | manual => rfl
  have hserving : (Snapshot.build [soleBinding client database]).serving resolution (strip name) =
      .ok (soleBinding client database) := by
    unfold Snapshot.serving
    rw [howner]
    rfl
  exact Table.resolve_eq_ok_iff.mpr ⟨hserving, rfl⟩

theorem inbound_soleBinding (client : κ) (database name : String) :
    (soleBinding client database).inbound name = name := by
  change (some (String.ofList name.toList)).getD name = name
  exact String.ofList_toList

theorem showsDatabase_soleBinding (client : κ) (database name : String) :
    (soleBinding client database).showsDatabase name = Lowercase.sameLower database name :=
  Bool.or_false _

/-- Access to the one visible database of the primary is admitted in every way. -/
theorem admitted_soleBinding (client : κ) (database : String) (created : CreatedBoard)
    (table : Option String) (access : Access) :
    Admitted created (soleBinding client database) database table access where
  shown := (showsDatabase_soleBinding ..).trans (beq_self_eq_true _)
  tableShown _ _ := rfl
  permitted _ := rfl

theorem slipped_soleTable {resolution : Resolution} {client : κ} {name : String}
    (hqualified : Qualified (bare name.toList)) {call : Call}
    (hnamed : namedDatabase? call = some (strip name)) (table : Option String) (access : Access) :
    Slipped (soleTable resolution client (strip (strip name))) name table access
      (client, call) := by
  refine ⟨_, strip name, ⟨resolve_soleTable .., rfl, hnamed⟩, fun hadmitted => ?_⟩
  have hshown := hadmitted.shown
  rw [showsDatabase_soleBinding,
    Pattern.Qualifier.not_sameLower_strip_strip hqualified] at hshown
  exact absurd hshown (by decide)

/-- All calls for a name reach the metastore as checked, in every federation, just where one
stripping is enough for the name. For each other name there is a federation in which every request
slips. -/
theorem checked_iff_not_qualified (name : String) :
    (¬ Qualified (bare name.toList) →
      ∀ {κ : Type} (clients : κ → Client) (t : Table κ),
        (∀ c ∈ (allTables clients t name).calls, Checked t name none .read c) ∧
        ∀ request : Operation, request.database = name →
          ∀ c ∈ (execute clients t request).calls,
            Checked t name request.table request.access c) ∧
    (Qualified (bare name.toList) →
      ∀ {κ : Type} (clients : κ → Client) (client : κ) (resolution : Resolution),
        ∃ (inventory : Inventory) (f : Federation κ),
          Federation.start (fun _ => .ok client) { resolution } inventory = .ok f ∧
          (∃ c ∈ (allTables clients f.table name).calls, Slipped f.table name none .read c) ∧
          ∀ request : Operation, request.database = name →
            ∃ c ∈ (execute clients f.table request).calls,
              Slipped f.table name request.table request.access c) := by
  constructor
  · intro hqualified κ clients t
    have hstrip := Pattern.Qualifier.strip_strip_of_not_qualified hqualified
    constructor
    · intro c hc
      obtain ⟨b, hresolve, hadmitted, rfl⟩ := mem_calls_allTables_iff.mp hc
      refine ⟨b, ⟨hresolve, rfl, ?_⟩, hadmitted⟩
      rw [checkedName, hstrip]
      rfl
    · rintro request rfl c hc
      obtain ⟨b, hresolve, hadmitted, rfl⟩ := mem_calls_execute_iff.mp hc
      refine ⟨b, ⟨hresolve, rfl, ?_⟩, hadmitted⟩
      rw [checkedName, hstrip]
      rfl
  · intro hqualified κ clients client resolution
    refine ⟨_, _, start_solePrimary resolution client (strip (strip name)), ?_, ?_⟩
    · refine ⟨_, mem_calls_allTables_iff.mpr ⟨_, resolve_soleTable .., ?_, rfl⟩, ?_⟩
      · rw [checkedName, inbound_soleBinding]
        exact admitted_soleBinding ..
      · refine slipped_soleTable hqualified ?_ _ _
        simp only [namedDatabase?, inbound_soleBinding]
    · rintro request rfl
      refine ⟨_, mem_calls_execute_iff.mpr ⟨_, resolve_soleTable .., ?_, rfl⟩, ?_⟩
      · rw [checkedName, inbound_soleBinding]
        exact admitted_soleBinding ..
      · refine slipped_soleTable hqualified ?_ _ _
        simp only [namedDatabase?, inbound_soleBinding]

/-- A name in the default catalog is checked and forwarded as the same name, and a marker between
separators is not. -/
theorem checked_default_catalog_and_slipped_marker :
    (¬ Qualified (bare "@hive#sales".toList) ∧
      ∀ c ∈ (execute (fun _ : Unit => ⟨fun _ => .silent, .silent⟩) (soleTable .manual () "sales")
          { operation := "get_table", database := "@hive#sales" }).calls,
        Checked (soleTable .manual () "sales") "@hive#sales" none .read c) ∧
    Qualified (bare "#@x#".toList) ∧
      ∃ t : Table Unit, ∃ c ∈ (allTables (fun _ => ⟨fun _ => .silent, .silent⟩) t "#@x#").calls,
        Slipped t "#@x#" none .read c := by
  have hplain : ¬ Qualified (bare "@hive#sales".toList) :=
    (Pattern.Qualifier.bare_eq_self_iff (by decide)).mp (by decide)
  have hmarked : Qualified (bare "#@x#".toList) := .inl (by decide)
  refine ⟨⟨hplain, ?_⟩, hmarked, ?_⟩
  · exact ((checked_iff_not_qualified "@hive#sales").1 hplain _ _).2 _ rfl
  · obtain ⟨-, f, -, hslipped, -⟩ :=
      (checked_iff_not_qualified "#@x#").2 hmarked (fun _ => ⟨fun _ => .silent, .silent⟩) ()
        .manual
    exact ⟨f.table, hslipped⟩

/-- Separators around a marker hide it from the first stripping. The database `@x` is asked for,
which is not visible, since `x` is. -/
theorem slipped_marker_between_separators :
    Federation.start (fun _ => .ok ()) { resolution := .prefixed }
          (.ofDefinitions [solePrimary "x"]) =
        .ok (soleFederation .prefixed () "x") ∧
      ∃ c ∈ (execute (fun _ : Unit => ⟨fun _ => .silent, .silent⟩) (soleTable .prefixed () "x")
          { operation := "get_table", database := "#@x#" }).calls,
        namedDatabase? c.2 = some "@x" ∧ checkedName (soleBinding () "x") "@x" = "x" ∧
          (soleBinding () "x").showsDatabase "@x" = false ∧
          ¬ Checked (soleTable .prefixed () "x") "#@x#" none .read c := by
  have hfirst : strip "#@x#" = "@x" := by decide
  have hsecond : checkedName (soleBinding () "x") "@x" = "x" :=
    (inbound_soleBinding ..).trans (by decide)
  refine ⟨start_solePrimary .., ((), .execute { operation := "get_table", database := "@x" }),
    mem_calls_execute_iff.mpr ⟨_, resolve_soleTable .., ?_, ?_⟩, rfl, hsecond,
    (showsDatabase_soleBinding ..).trans (by decide), ?_⟩
  · rw [hfirst, hsecond]
    exact admitted_soleBinding ..
  · rw [hfirst, inbound_soleBinding]
  · have hmarked : Qualified (bare "#@x#".toList) := .inl (by decide)
    have htwice : strip (strip "#@x#") = "x" := by decide
    have hnamed : namedDatabase? (.execute { operation := "get_table", database := "@x" }) =
        some (strip "#@x#") := congrArg some hfirst.symm
    have hslipped : Slipped (soleTable .prefixed () (strip (strip "#@x#"))) "#@x#" none .read _ :=
      slipped_soleTable hmarked hnamed none .read
    rw [htwice] at hslipped
    exact fun hchecked => hchecked.not_slipped hslipped

end MetastoreFederation.Catalog
