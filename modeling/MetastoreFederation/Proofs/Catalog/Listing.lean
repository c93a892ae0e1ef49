import MetastoreFederation.Proofs.Catalog.Creation

/-!
The tables that a listing has. What a metastore answers is cut down after the call, and a request
for one table is checked before the call, but both hold the same rules against the same local name:
a table is listed just where a request to read it would be forwarded to the metastore that listed
it.
-/

set_option autoImplicit false
set_option relaxedAutoImplicit false

namespace MetastoreFederation.Catalog

open Metastore Request Routing
open Pattern.Qualifier (strip)

variable {κ α : Type} {clients : κ → Client} {t : Table κ} {b : Binding κ} {time : Nat}

/-- The request reads a table of a database. -/
structure ReadsTable (request : Operation) (database table : String) : Prop where
  database : request.database = database
  table : request.table = some table
  access : request.access = .read

/-- What is answered without an error was resolved and admitted. -/
theorem exists_next_of_answered {database : String} {table : Option String} {access : Access}
    {next : Binding κ → Table κ → Served κ α} {answer : α}
    (h : (serve t database table access next).outcome = .answered time (.ok answer)) :
    ∃ b, t.resolve database = .ok (b, t.countUse b) ∧
      Admitted t.created b (checkedName b database) table access ∧
      serve t database table access next = next b (t.countUse b) := by
  unfold serve at h
  cases hresolve : t.resolve database with
  | error cause =>
    rw [hresolve] at h
    cases h
  | ok found =>
    obtain ⟨b, u⟩ := found
    obtain rfl := (Table.resolve_eq_ok_iff.mp hresolve).2
    rw [hresolve] at h
    dsimp only at h
    cases hcheck : checkAllowed (t.countUse b).created b database table access with
    | error cause =>
      rw [hcheck] at h
      cases h
    | ok =>
      have hadmitted := (checkAllowed_eq_ok_iff (t.countUse b).created ..).mp hcheck
      exact ⟨b, rfl, hadmitted, serve_eq_of_admitted hresolve hadmitted⟩

theorem exists_answer_of_forward {call : Call} {read : call.Answer → α} {answer : α}
    (h : (forward clients t b call read).outcome = .answered time (.ok answer)) :
    ∃ given, (clients b.client).call call = .answered time (.ok given) ∧ read given = answer := by
  unfold forward at h
  dsimp only at h
  rcases hcall : (clients b.client).call call with ⟨when_, cause | given⟩ | when_ | _ <;>
    rw [hcall] at h <;> cases h
  exact ⟨given, rfl, rfl⟩

theorem serve_eq_refused {database : String} {table : Option String} {access : Access}
    {next : Binding κ → Table κ → Served κ α} {cause : AccessError}
    (hresolved : t.resolve database = .ok (b, t.countUse b))
    (hdenied : checkAllowed t.created b database table access = .error cause) :
    serve t database table access next = refused (t.countUse b) (.access cause) := by
  have hdenied : checkAllowed (t.countUse b).created b database table access = .error cause :=
    hdenied
  unfold serve
  rw [hresolved]
  dsimp only
  rw [hdenied]

/-- A table that the binding does not show, in a database that it shows, is not read. -/
theorem checkAllowed_of_hidden {database table : String} (created : CreatedBoard)
    (hshown : b.showsDatabase (checkedName b database) = true)
    (hhidden : b.showsTable (checkedName b database) table = false) :
    checkAllowed created b database (some table) .read =
      .error (.tableNotMapped b.name (checkedName b database) table) := by
  have hgate : checkGate created b .read (checkedName b database) = .ok () :=
    (checkGate_eq_ok_iff ..).mpr fun hwrites => nomatch hwrites
  change (checkGate created b .read (checkedName b database) >>= fun _ =>
    checkVisible b (checkedName b database) (some table)) = _
  rw [hgate]
  change checkVisible b (checkedName b database) (some table) = _
  unfold checkVisible
  rw [hshown, if_neg (by decide)]
  dsimp only
  rw [hhidden, if_neg (by decide)]

/-- The answer to a listing has those of the metastore's tables, in their order, for which a request
to read them by the same name of their database is forwarded to the same metastore. A request to
read one that was left out is refused as one for a table that is not visible. -/
theorem allTables_eq_filter_readable {name : String} {answer : List String}
    (hanswered : (allTables clients t name).outcome = .answered time (.ok answer)) :
    ∃ (b : Binding κ) (tables : List String) (keeps : String → Bool),
      t.resolve (strip name) = .ok (b, t.countUse b) ∧
      (allTables clients t name).calls = [(b.client, .allTables (b.inbound (strip name)))] ∧
      (clients b.client).call (.allTables (b.inbound (strip name))) =
        .answered time (.ok tables) ∧
      answer = tables.filter keeps ∧
      ∀ (clients : κ → Client) (table : String) (request : Operation),
        ReadsTable request name table →
          (keeps table = true ↔ Forwards clients t request b (b.inbound (strip name))) ∧
          (keeps table = false ↔ execute clients t request = refused (t.countUse b)
            (.access (.tableNotMapped b.name (checkedName b (strip name)) table))) := by
  obtain ⟨b, hresolved, hadmitted, hserved⟩ := exists_next_of_answered hanswered
  have hserved : allTables clients t name = forward clients (t.countUse b) b
      (.allTables (b.inbound (strip name))) (visibleTables b (strip name)) := hserved
  rw [hserved] at hanswered ⊢
  obtain ⟨tables, hcall, rfl⟩ := exists_answer_of_forward hanswered
  refine ⟨b, tables, b.showsTable (checkedName b (strip name)), hresolved, rfl, hcall, rfl, ?_⟩
  rintro clients table request ⟨rfl, htable, hreads⟩
  have hforwards : b.showsTable (checkedName b (strip request.database)) table = true ↔
      Forwards clients t request b (b.inbound (strip request.database)) := by
    rw [forwards_iff, and_iff_right hresolved]
    constructor
    · intro hshown
      refine ⟨hadmitted.shown, fun other hother => ?_, fun hwrites => ?_⟩
      · rw [htable] at hother
        rwa [← Option.some.inj hother]
      · exact nomatch hreads.symm.trans hwrites
    · intro hadmits
      exact hadmits.tableShown table htable
  refine ⟨hforwards, fun hhidden => ?_, fun hrefused => ?_⟩
  · refine serve_eq_refused hresolved ?_
    rw [htable, hreads]
    exact checkAllowed_of_hidden t.created hadmitted.shown hhidden
  · -- A request that is refused makes no call, and one that is forwarded makes one.
    refine Bool.eq_false_iff.mpr fun hshown => ?_
    have hcalls := congrArg Served.calls ((hforwards.mp hshown).served.symm.trans hrefused)
    exact List.cons_ne_nil _ _ hcalls

/-- A metastore that shows the events of its logs, and surfaces the logs under that name, too. -/
def eventWaggle : Definition :=
  { name := "waggle", addresses := "a", visibleDatabases := some ["LOGS"]
    tableRules := [⟨"Logs", ["event_.*"]⟩], aliases := .ofList [("logs", "events")] }

/-- A client that lists the same tables for every database, one of them twice. -/
def lister : Client where
  call
    | .allTables _ => .answered 0 (.ok ["event_b", "users", "event_a", "event_b"])
    | _ => .silent
  ping := .answered 0 (.ok ())

theorem allTables_eq_filter_readable_events :
    ∃ f : Federation Unit,
      Federation.start (fun _ => .ok ()) {} (.ofDefinitions [eventWaggle]) = .ok f ∧
      (allTables (fun _ => lister) f.table "@hive#WAGGLE_events").outcome =
        .answered 0 (.ok ["event_b", "event_a", "event_b"]) ∧
      let read (table : String) : Operation :=
        { operation := "get_table", database := "@hive#WAGGLE_events", table := some table }
      ∃ b, Forwards (fun _ => lister) f.table (read "event_b") b
          (b.inbound (strip "@hive#WAGGLE_events")) ∧
        execute (fun _ => lister) f.table (read "users") = refused (f.table.countUse b)
          (.access (.tableNotMapped b.name (checkedName b (strip "@hive#WAGGLE_events"))
            "users")) := by
  have hcomputed : ((Federation.start (fun _ => .ok ()) {}
      (.ofDefinitions [eventWaggle])).toOption.map fun f =>
        (allTables (fun _ : Unit => lister) f.table "@hive#WAGGLE_events").outcome) =
      some (.answered 0 (.ok ["event_b", "event_a", "event_b"])) := by decide +kernel
  cases hstart : Federation.start (fun _ => .ok ()) {} (.ofDefinitions [eventWaggle]) with
  | error cause =>
    rw [hstart] at hcomputed
    cases hcomputed
  | ok f =>
    rw [hstart] at hcomputed
    have hanswered : (allTables (fun _ => lister) f.table "@hive#WAGGLE_events").outcome =
        .answered 0 (.ok ["event_b", "event_a", "event_b"]) := Option.some.inj hcomputed
    obtain ⟨b, tables, keeps, -, -, hcall, hanswer, hreads⟩ :=
      allTables_eq_filter_readable hanswered
    have hgiven : ["event_b", "users", "event_a", "event_b"] = tables := by
      cases hcall
      rfl
    have hkept (table : String) (hgave : table ∈ tables) :
        keeps table = true ↔ table ∈ ["event_b", "event_a", "event_b"] := by
      rw [hanswer, List.mem_filter, and_iff_right hgave]
    have hevents : keeps "event_b" = true := (hkept _ (hgiven ▸ by decide)).mpr (by decide)
    have husers : keeps "users" = false :=
      Bool.eq_false_iff.mpr fun h => absurd ((hkept _ (hgiven ▸ by decide)).mp h) (by decide)
    exact ⟨f, rfl, hanswered, b, (hreads _ "event_b" _ ⟨rfl, rfl, rfl⟩).1.mp hevents,
      (hreads _ "users" _ ⟨rfl, rfl, rfl⟩).2.mp husers⟩

end MetastoreFederation.Catalog
