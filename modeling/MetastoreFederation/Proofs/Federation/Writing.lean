import MetastoreFederation.Proofs.Catalog.Creation
import MetastoreFederation.Proofs.Federation.Operations
import MetastoreFederation.Proofs.Metastore.Permission
import MetastoreFederation.Proofs.Routing.Freshness

/-!
What may be written, through everything that is asked of a federation. Under the policy that lists
what may be written and creates databases, these are the databases that the whitelist lists and
those that were created; under each other policy, they are the same all the time.
-/

set_option autoImplicit false
set_option relaxedAutoImplicit false

namespace MetastoreFederation

open Metastore Request Routing
open Pattern.Qualifier (strip)

variable {κ : Type}

namespace Routing.Table

variable {t u : Table κ} {create : Factory κ} {event : Event} {b : Binding κ} {bound : Nat}

theorem sound_registerAll {r : Registry κ} {entries : List Entry}
    (h : ∃ bound, t.Sound bound)
    (hall : Registry.registerAll create t.registry entries = .ok r) :
    ∃ bound, Sound bound { t with registry := r } := by
  induction entries generalizing t with
  | nil =>
    cases hall
    exact h
  | cons e entries ih =>
    obtain ⟨next, hregister, hrest⟩ := Registry.registerAll_cons_eq_ok_iff.mp hall
    have hnotify : t.notify create (.register e) = .ok { t with registry := next } :=
      notify_eq_ok_iff.mpr ⟨next, hregister, rfl⟩
    obtain ⟨bound, hsound⟩ := h
    have hnext := (hsound.mono (Nat.le_max_left ..)).notify
      (Nat.le_max_right bound (Event.register e).bound) hnotify
    exact ih (t := { t with registry := next }) ⟨_, hnext⟩ hrest

end Routing.Table

namespace Catalog

variable {clients : κ → Client} {t : Table κ}

theorem succeeds_createDatabase_iff {database : String} {payload : Document.Datum} :
    (createDatabase clients t database payload).outcome.Succeeds ↔
      ∃ b, t.registry.snapshot.primary = some b ∧ b.gate.mayCreate = true ∧
        ((clients b.client).call
          (.execute (creation (b.inbound (strip database)) payload))).Succeeds := by
  unfold createDatabase Table.resolvePrimary
  cases hprimary : t.registry.snapshot.primary with
  | none => exact ⟨False.elim, fun h => nomatch h.choose_spec.1⟩
  | some b =>
    simp only [Option.some.injEq, exists_eq_left']
    cases hpermitted : b.gate.mayCreate with
    | false => simp [refused, Outcome.Succeeds]
    | true =>
      simp only [Bool.not_true, Bool.false_eq_true, if_false, true_and]
      unfold forward
      rcases (clients b.client).call (.execute (creation (b.inbound (strip database)) payload)) with
        ⟨time, e | answer⟩ | time | _ <;> exact Iff.rfl

end Catalog

namespace Federation

variable {create : Factory κ} {f : Federation κ} {o : Operation κ} {operations : List (Operation κ)}
  {b : Binding κ} {database name : String}

/-- The operation asks for a database that the primary may create, and the metastore creates it,
under its local name, in time. -/
def Operation.Creates (o : Operation κ) (f : Federation κ) (b : Binding κ) (database : String) :
    Prop :=
  ∃ s name payload, o = .createDatabase s name payload ∧
    f.table.registry.snapshot.primary = some b ∧ b.gate.mayCreate = true ∧
    database = b.inbound (strip name) ∧
    (((s.clients b.client).within s.patience).call
      (.execute (Catalog.creation database payload))).Succeeds

section Creation

theorem Operation.Creates.unique {c : Binding κ} (h : o.Creates f b database)
    (h' : o.Creates f c name) : b = c ∧ database = name := by
  obtain ⟨s, called, payload, rfl, hprimary, -, rfl, -⟩ := h
  obtain ⟨_, _, _, hsame, hprimary', -, rfl, -⟩ := h'
  obtain rfl := Option.some.inj (hprimary.symm.trans hprimary')
  cases hsame
  exact ⟨rfl, rfl⟩

theorem Operation.Creates.primary (h : o.Creates f b database) :
    f.table.registry.snapshot.primary = some b := by
  obtain ⟨-, -, -, -, hprimary, -⟩ := h
  exact hprimary

theorem Operation.Creates.mayCreate (h : o.Creates f b database) : b.gate.mayCreate = true := by
  obtain ⟨-, -, -, -, -, hpermitted, -⟩ := h
  exact hpermitted

end Creation

/-- What an operation does to the routing table: it is told of a change, note is taken of a database
that was created, or neither. -/
inductive Affects (o : Operation κ) (f : Federation κ) (t : Table κ) : Prop
  | kept (creates : ∀ b database, ¬ o.Creates f b database)
      (registry : t.registry = f.table.registry) (created : t.created = f.table.created)
  | told {create : Factory κ} {request : Administration.Request} {event : Event}
      (change : o = .change create request) (takes : f.table.notify create event = .ok t)
  | noted {b : Binding κ} {database : String} (creates : o.Creates f b database)
      (registry : t.registry = f.table.registry)
      (created : t.created = f.table.created.note b database)

section Effect

variable {t : Table κ}

/-- An operation that creates no databases leaves the bindings and the notes alone, but for changes.
-/
theorem Affects.of_kept (hother : ∀ s name payload, o ≠ .createDatabase s name payload)
    (hregistry : t.registry = f.table.registry) (hcreated : t.created = f.table.created) :
    Affects o f t :=
  .kept (fun _ _ ⟨s, name, payload, hsame, _⟩ => hother s name payload hsame) hregistry hcreated

theorem Affects.of_eq (hother : ∀ s name payload, o ≠ .createDatabase s name payload)
    (htable : t = f.table) : Affects o f t :=
  .of_kept hother (congrArg Table.registry htable) (congrArg Table.created htable)

theorem table_serve {α : Type} (s : Surroundings κ) (f : Federation κ)
    (request : (κ → Client) → Table κ → Catalog.Served κ α) :
    (f.serve s request).after.table =
      (request (fun k => (s.clients k).within s.patience) f.table).table := by
  unfold serve
  dsimp only
  split <;> rfl

theorem affects_serve {α : Type} (hother : ∀ s name payload, o ≠ .createDatabase s name payload)
    (s : Surroundings κ) {request : (κ → Client) → Table κ → Catalog.Served κ α}
    (hregistry : ∀ k t, (request k t).table.registry = t.registry)
    (hcreated : ∀ k t, (request k t).table.created = t.created) :
    Affects o f (f.serve s request).after.table := by
  rw [table_serve]
  exact .of_kept hother (hregistry ..) (hcreated ..)

theorem affects_survey {α : Type} (hother : ∀ s name payload, o ≠ .createDatabase s name payload)
    (s : Surroundings κ) (request : (κ → Client) → Survey κ → Survey.Report κ α) :
    Affects o f (f.survey s request).after.table := by
  unfold survey Catalog.survey
  dsimp only
  split_ifs <;> exact .of_kept hother rfl rfl

theorem affects_createDatabase (s : Surroundings κ) (f : Federation κ) (database : String)
    (payload : Document.Datum) :
    Affects (.createDatabase s database payload) f
      (f.serve s fun k t => Catalog.createDatabase k t database payload).after.table := by
  rw [table_serve]
  let clients := fun k => (s.clients k).within s.patience
  have hregistry : (Catalog.createDatabase clients f.table database payload).table.registry =
      f.table.registry := registry_createDatabase database payload
  rcases Catalog.createDatabase_cases clients f.table database payload with
    ⟨hsucceeds, b, hthrough⟩ | ⟨hfails, hcreated⟩
  · obtain ⟨c, hprimary, hpermitted, hcall⟩ := Catalog.succeeds_createDatabase_iff.mp hsucceeds
    obtain rfl := Option.some.inj (hthrough.primary.symm.trans hprimary)
    refine .noted ⟨s, database, payload, rfl, hprimary, hpermitted, rfl, hcall⟩ hregistry ?_
    rw [hthrough.table]
  · refine .kept ?_ hregistry hcreated
    rintro b _ ⟨_, _, _, hsame, hprimary, hpermitted, rfl, hcall⟩
    cases hsame
    exact hfails (Catalog.succeeds_createDatabase_iff.mpr ⟨b, hprimary, hpermitted, hcall⟩)

theorem affects_asked {create : Factory κ} {request : Administration.Request} {g : Federation κ}
    (hasked : f.Asked create request g) : Affects (.change create request) f g.table := by
  cases hasked with
  | idle => exact .of_eq nofun rfl
  | refused => exact .of_eq nofun rfl
  | made plans takes => exact .told rfl takes

theorem affects_operate (o : Operation κ) (f : Federation κ) : Affects o f (f.operate o).table := by
  cases o with
  | change create request => exact affects_asked (asked create f request)
  | get s name =>
    refine .of_eq nofun ?_
    unfold operate get
    dsimp only
    split <;> rfl
  | getAll s => exact .of_eq nofun rfl
  | allTables s database =>
    exact affects_serve (by nofun) s
      (fun _ _ => kept_serve Table.registry (fun _ _ => rfl) fun _ _ => rfl)
      fun _ _ => kept_serve Table.created (fun _ _ => rfl) fun _ _ => rfl
  | execute s request =>
    exact affects_serve (by nofun) s
      (fun _ _ => kept_serve Table.registry (fun _ _ => rfl) fun _ _ => rfl)
      fun _ _ => kept_serve Table.created (fun _ _ => rfl) fun _ _ => rfl
  | createDatabase s database payload => exact affects_createDatabase s f database payload
  | allDatabases s => exact affects_survey (by nofun) s _
  | databases s pattern => exact affects_survey (by nofun) s _
  | tableMeta s databasePattern tablePattern types => exact affects_survey (by nofun) s _
  | setGroups s user groups => exact affects_survey (by nofun) s _
  | wait s duration => exact .of_eq nofun rfl
  | startPolling =>
    refine .of_eq nofun ?_
    unfold operate startPolling
    dsimp only
    split <;> rfl
  | stop s =>
    refine .of_eq nofun ?_
    unfold operate stop
    dsimp only
    split <;> rfl

end Effect

section Registered

theorem sound_operate (h : ∃ bound, f.table.Sound bound) (o : Operation κ) :
    ∃ bound, (f.operate o).table.Sound bound := by
  obtain ⟨bound, hsound⟩ := h
  cases affects_operate o f with
  | kept creates registry created => exact ⟨bound, hsound.of_eq registry created⟩
  | @told create request event change takes =>
    exact ⟨max bound event.bound,
      (hsound.mono (Nat.le_max_left ..)).notify (Nat.le_max_right ..) takes⟩
  | @noted b database creates registry created =>
    obtain ⟨hb, -⟩ := hsound.coherent.primary_eq_some_iff.mp creates.primary
    have hfind := hsound.coherent.find?_eq_some_iff.mpr ⟨hb, rfl⟩
    have hnoted := hsound.noteCreated b.name database
    unfold Table.noteCreated at hnoted
    rw [hfind] at hnoted
    exact ⟨bound, hnoted.of_eq registry created⟩

theorem sound_operations (h : ∃ bound, f.table.Sound bound) (operations : List (Operation κ)) :
    ∃ bound, (operations.foldl operate f).table.Sound bound := by
  induction operations generalizing f with
  | nil => exact h
  | cons o operations ih => exact ih (sound_operate h o)

theorem sound_start {settings : Settings} {inventory : Inventory}
    (hstart : start create settings inventory = .ok f) :
    (∃ bound, f.table.Sound bound) ∧ ∀ id, f.table.created.databases id = [] := by
  obtain ⟨-, r, hall, rfl⟩ := start_eq_ok_iff.mp hstart
  have hempty : ∃ bound, (Table.empty settings.resolution : Table κ).Sound bound :=
    ⟨0, Table.sound_empty 0 _⟩
  exact ⟨Table.sound_registerAll hempty hall, fun _ => rfl⟩

theorem bindings_operate (hsteady : ∀ create request, o ≠ .change create request) :
    (f.operate o).table.bindings = f.table.bindings := by
  cases affects_operate o f with
  | kept creates registry created => exact congrArg (fun r => r.snapshot.bindings) registry
  | @told create request event change => exact absurd change (hsteady create request)
  | noted creates registry created => exact congrArg (fun r => r.snapshot.bindings) registry

theorem bindings_operations
    (hsteady : ∀ create request, Operation.change create request ∉ operations) :
    (operations.foldl operate f).table.bindings = f.table.bindings := by
  induction operations generalizing f with
  | nil => rfl
  | cons o operations ih =>
    have hlater : ∀ create request, Operation.change create request ∉ operations :=
      fun create request h => hsteady create request (List.mem_cons_of_mem o h)
    have ho : ∀ create request, o ≠ .change create request :=
      fun create request h => hsteady create request (h ▸ List.mem_cons_self)
    exact (ih hlater).trans (bindings_operate ho)

end Registered

section Notes

theorem created_operate (h : o.Creates f b database) :
    (f.operate o).table.created = f.table.created.note b database := by
  cases affects_operate o f with
  | kept creates => exact absurd h (creates b database)
  | told change =>
    obtain ⟨_, _, _, rfl, -⟩ := h
    cases change
  | noted creates registry created =>
    obtain ⟨rfl, rfl⟩ := h.unique creates
    exact created

/-- No note gets lost, also when the routing table is told of a change. -/
theorem databases_subset_operate (o : Operation κ) (f : Federation κ) (id : Nat) :
    f.table.created.databases id ⊆ (f.operate o).table.created.databases id := by
  cases affects_operate o f with
  | kept creates registry created =>
    rw [created]
    exact List.Subset.refl _
  | told change takes =>
    rw [Table.created_notify takes]
    exact List.Subset.refl _
  | noted creates registry created =>
    rw [created]
    exact fun name hname => CreatedBoard.mem_databases_note_iff.mpr (.inl hname)

theorem databases_subset_operations (operations : List (Operation κ)) (f : Federation κ)
    (id : Nat) :
    f.table.created.databases id ⊆ (operations.foldl operate f).table.created.databases id := by
  induction operations generalizing f with
  | nil => exact List.Subset.refl _
  | cons o operations ih =>
    exact List.Subset.trans (databases_subset_operate o f id) (ih (f.operate o))

theorem databases_subset_of_before {before : List (Operation κ)} (h : before <+: operations)
    (f : Federation κ) (id : Nat) :
    (before.foldl operate f).table.created.databases id ⊆
      (operations.foldl operate f).table.created.databases id := by
  obtain ⟨rest, rfl⟩ := h
  rw [List.foldl_append]
  exact databases_subset_operations rest _ id

/-- One of the operations created the database through the binding, which did not permit to write it
at that moment. -/
def NewlyCreated (f : Federation κ) (operations : List (Operation κ)) (b : Binding κ)
    (database : String) : Prop :=
  ∃ before o, before ++ [o] <+: operations ∧ o.Creates (before.foldl operate f) b database ∧
    (before.foldl operate f).table.created.mayWrite b database = false

theorem foldl_operate_append_singleton (before : List (Operation κ)) (o : Operation κ)
    (f : Federation κ) : (before ++ [o]).foldl operate f = (before.foldl operate f).operate o := by
  rw [List.foldl_append]
  rfl

/-- What was newly created was taken note of. -/
theorem NewlyCreated.mem_databases (h : f.NewlyCreated operations b database)
    (hpolicy : b.gate.policy = .writeListedAndCreate) :
    database ∈ (operations.foldl operate f).table.created.databases b.id := by
  obtain ⟨before, o, hbefore, hcreates, hdenied⟩ := h
  apply databases_subset_of_before hbefore
  rw [foldl_operate_append_singleton, created_operate hcreates]
  exact CreatedBoard.mem_databases_note_iff.mpr (.inr ⟨rfl, rfl, hpolicy, hdenied⟩)

/-- Note was taken before, or is taken of what is created. -/
theorem mem_databases_operate {bound : Nat} (hsound : f.table.Sound bound)
    (hb : b ∈ (f.operate o).table.bindings)
    (hmem : database ∈ (f.operate o).table.created.databases b.id) :
    (b ∈ f.table.bindings ∧ database ∈ f.table.created.databases b.id) ∨
      o.Creates f b database ∧ f.table.created.mayWrite b database = false := by
  have hsame (hregistry : (f.operate o).table.registry = f.table.registry) :
      b ∈ f.table.bindings := by
    unfold Table.bindings at hb
    rwa [hregistry] at hb
  cases affects_operate o f with
  | kept creates registry created =>
    rw [created] at hmem
    exact .inl ⟨hsame registry, hmem⟩
  | told change takes =>
    rw [Table.created_notify takes] at hmem
    rcases Table.mem_or_id_of_notify takes hb with hb | hid
    · exact .inl ⟨hb, hmem⟩
    · -- Nothing was created through the next identity so far.
      rw [hsound.databases_nextId (Nat.le_of_eq hid.symm)] at hmem
      cases hmem
  | noted creates registry created =>
    rw [created] at hmem
    rcases CreatedBoard.mem_databases_note_iff.mp hmem with hmem | ⟨hid, rfl, -, hdenied⟩
    · exact .inl ⟨hsame registry, hmem⟩
    · obtain ⟨hc, -⟩ := hsound.coherent.primary_eq_some_iff.mp creates.primary
      obtain rfl := hsound.distinct b (hsame registry) _ hc hid
      exact .inr ⟨creates, hdenied⟩

/-- Note was only taken of what was newly created. -/
theorem newlyCreated_of_mem_databases (hsound : ∃ bound, f.table.Sound bound)
    (hnone : ∀ id, f.table.created.databases id = [])
    (hb : b ∈ (operations.foldl operate f).table.bindings)
    (hmem : database ∈ (operations.foldl operate f).table.created.databases b.id) :
    f.NewlyCreated operations b database := by
  induction operations using List.reverseRecOn with
  | nil =>
    rw [List.foldl_nil, hnone] at hmem
    cases hmem
  | append_singleton operations o ih =>
    obtain ⟨bound, hlast⟩ := sound_operations hsound operations
    rw [foldl_operate_append_singleton] at hb hmem
    rcases mem_databases_operate hlast hb hmem with ⟨hb, hmem⟩ | ⟨hcreates, hdenied⟩
    · obtain ⟨before, x, hbefore, hcreates⟩ := ih hb hmem
      exact ⟨before, x, hbefore.trans (List.prefix_append ..), hcreates⟩
    · exact ⟨operations, o, List.prefix_refl _, hcreates, hdenied⟩

end Notes

section Permitted

variable {before : List (Operation κ)}

/-- What the whitelist lists may be written, and what was newly created. -/
theorem mayWrite_operations_iff (hsound : ∃ bound, f.table.Sound bound)
    (hnone : ∀ id, f.table.created.databases id = [])
    (hb : b ∈ (operations.foldl operate f).table.bindings)
    (hpolicy : b.definition.policy = .writeListedAndCreate) :
    (operations.foldl operate f).table.created.mayWrite b name = true ↔
      b.definition.Whitelists name ∨ ∃ database, f.NewlyCreated operations b database ∧
        Regex.Lists (Regex.escape database) name := by
  obtain ⟨bound, hlast⟩ := sound_operations hsound operations
  have hmade := hlast.gate hb
  have hgate : b.gate.policy = .writeListedAndCreate := (Gate.policy_of_make? hmade).trans hpolicy
  rw [CreatedBoard.mayWrite_iff_of_listed hgate, Gate.any_whitelist_iff hmade]
  refine or_congr_right (exists_congr fun database => ?_)
  rw [Regex.sameFolded_iff_lists_escape]
  refine and_congr_left fun _ => ⟨?_, fun h => h.mem_databases hgate⟩
  exact newlyCreated_of_mem_databases hsound hnone hb

/-- What was created may be written from then on. -/
theorem mayWrite_of_creates (hbefore : before ++ [o] <+: operations)
    (hcreates : o.Creates (before.foldl operate f) b database) :
    (operations.foldl operate f).table.created.mayWrite b database = true := by
  apply CreatedBoard.mayWrite_mono (databases_subset_of_before hbefore f b.id)
  rw [foldl_operate_append_singleton, created_operate hcreates]
  exact CreatedBoard.mayWrite_note hcreates.mayCreate

/-- Where created databases are not listed, the same may be written all the time. -/
theorem mayWrite_before_eq (hsound : ∃ bound, f.table.Sound bound)
    (hb : b ∈ (operations.foldl operate f).table.bindings)
    (hpolicy : b.definition.policy ≠ .writeListedAndCreate) (hbefore : before <+: operations) :
    (before.foldl operate f).table.created.mayWrite b =
      (operations.foldl operate f).table.created.mayWrite b := by
  obtain ⟨bound, hlast⟩ := sound_operations hsound operations
  have hgate := Gate.policy_of_make? (hlast.gate hb)
  have hnone : (operations.foldl operate f).table.created.databases b.id = [] :=
    List.eq_nil_iff_forall_not_mem.mpr fun name hname =>
      hpolicy (hgate.symm.trans (hlast.created b hb name hname).1)
  have hearlier := databases_subset_of_before hbefore f b.id
  rw [hnone, List.subset_nil] at hearlier
  unfold CreatedBoard.mayWrite
  rw [hnone, hearlier]

end Permitted

/-- What may be written through a binding after some operations: what is on the whitelist and what
was created, where both are listed, and always the same elsewhere. -/
structure Writing (f : Federation κ) (operations : List (Operation κ)) (b : Binding κ) : Prop where
  listed : b.definition.policy = .writeListedAndCreate → ∀ name,
    ((operations.foldl operate f).table.created.mayWrite b name = true ↔
      b.definition.Whitelists name ∨ ∃ database, f.NewlyCreated operations b database ∧
        Regex.Lists (Regex.escape database) name)
  created : ∀ before o database, before ++ [o] <+: operations →
    o.Creates (before.foldl operate f) b database →
      (operations.foldl operate f).table.created.mayWrite b database = true
  fixed : b.definition.policy ≠ .writeListedAndCreate ∨ b.isPrimary = false →
    ∀ before, before <+: operations →
      (before.foldl operate f).table.created.mayWrite b =
        (operations.foldl operate f).table.created.mayWrite b
  federated : b.isPrimary = false → b.gate.mayCreate = false

variable {settings : Settings} {inventory : Inventory}

/-- Whatever is asked of a federation, exactly the right databases may be written. Without a change
the metastores are bound as they were at the start. -/
theorem writing_of_operations (hstart : start create settings inventory = .ok f)
    (operations : List (Operation κ)) :
    ((∀ create request, Operation.change create request ∉ operations) →
        (operations.foldl operate f).table.bindings = f.table.bindings) ∧
      ∀ b ∈ (operations.foldl operate f).table.bindings, f.Writing operations b := by
  refine ⟨bindings_operations, fun b hb => ?_⟩
  obtain ⟨hsound, hnone⟩ := sound_start hstart
  obtain ⟨bound, hlast⟩ := sound_operations hsound operations
  have hfederated (hrole : b.isPrimary = false) : b.definition.policy.mayCreate = false :=
    Definition.mayCreate_of_federated (hlast.coherent.problems b hb) hrole
  refine ⟨fun hpolicy _ => mayWrite_operations_iff hsound hnone hb hpolicy,
    fun _ _ _ => mayWrite_of_creates, fun hother before => ?_, fun hrole => ?_⟩
  · refine mayWrite_before_eq hsound hb (hother.elim id fun hrole hpolicy => ?_)
    have hdenied := hfederated hrole
    rw [hpolicy] at hdenied
    cases hdenied
  · unfold Gate.mayCreate
    rw [Gate.policy_of_make? (hlast.gate hb)]
    exact hfederated hrole

/-- A primary that creates databases and lists what may be written, and a metastore that lists what
may be written. -/
def creatorAndLister : List Definition :=
  [{ name := "primary", role := .primary, addresses := "a", policy := .writeListedAndCreate
     whitelist := ["tmp_.*"] },
    { name := "waggle", addresses := "b", policy := .writeListed, whitelist := ["logs"] }]

/-- Surroundings in which all metastores answer alike. -/
def answering (answer : Except ClientError Document.Datum) : Surroundings Unit where
  create _ := .ok ()
  clients _ := ⟨fun | .execute _ => .answered 0 answer | _ => .silent, .silent⟩
  probe _ := .silent
  patience := 1

/-- A name with a dot is created, in another case too, and the creation of another one fails. -/
def creations : List (Operation Unit) :=
  [.createDatabase (answering (.ok .null)) "a.b" .null,
    .execute (answering (.ok .null)) { operation := "drop", database := "A.B", access := .write },
    .createDatabase (answering (.ok .null)) "A.B" .null,
    .createDatabase (answering (.error (.remote "full"))) "c" .null]

theorem writing_of_creations :
    ∃ f : Federation Unit,
      start (fun _ => .ok ()) {} (.ofDefinitions creatorAndLister) = .ok f ∧
      (creations.foldl operate f).table.bindings = f.table.bindings ∧
      (∀ b ∈ (creations.foldl operate f).table.bindings, f.Writing creations b) ∧
      (creations.foldl operate f).table.bindings.map (fun b =>
        ["A.B", "axb", "c", "TMP_1", "logs"].map
          ((creations.foldl operate f).table.created.mayWrite b)) =
        [[true, false, false, true, false], [false, false, false, false, true]] := by
  have hcomputed : ((start (fun _ => .ok ()) {} (.ofDefinitions creatorAndLister)).toOption.map
      fun f : Federation Unit => (creations.foldl operate f).table.bindings.map (fun b =>
        ["A.B", "axb", "c", "TMP_1", "logs"].map
          ((creations.foldl operate f).table.created.mayWrite b))) =
      some [[true, false, false, true, false], [false, false, false, false, true]] := by
    decide +kernel
  cases hstart : start (fun _ => .ok ()) {} (.ofDefinitions creatorAndLister) with
  | error cause =>
    rw [hstart] at hcomputed
    cases hcomputed
  | ok f =>
    rw [hstart] at hcomputed
    obtain ⟨hsteady, hwriting⟩ := writing_of_operations hstart creations
    exact ⟨f, rfl, hsteady (by simp [creations]), hwriting, Option.some.inj hcomputed⟩

end Federation

end MetastoreFederation
