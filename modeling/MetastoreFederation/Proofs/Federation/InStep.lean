import MetastoreFederation.Federation
import MetastoreFederation.Proofs.Administration.Requests
import MetastoreFederation.Proofs.Federation.Validation
import MetastoreFederation.Proofs.Routing.Registration
import MetastoreFederation.Proofs.Routing.Roster

/-!
The inventory and the routing table of a running federation stay in step: what is in the one is
bound in the other, whatever is asked of the administration and whatever comes of it.
-/

set_option autoImplicit false
set_option relaxedAutoImplicit false

namespace MetastoreFederation

open Metastore Routing

variable {κ : Type} {create : Factory κ} {entries : List Entry}

section Replay

/-- Entries under names that are free are bound one after another. -/
theorem Routing.Registry.map_entry_registerAll {r s : Registry κ}
    (hnames : (r.snapshot.bindings.map Binding.name ++ entries.map Entry.name).Nodup)
    (h : Registry.registerAll create r entries = .ok s) :
    s.snapshot.bindings.map Binding.entry = r.snapshot.bindings.map Binding.entry ++ entries := by
  -- The names that are taken and those that are to come stay distinct through all steps.
  induction entries generalizing r with
  | nil =>
    cases h
    rw [List.append_nil]
  | cons e entries ih =>
    obtain ⟨next, hregister, hrest⟩ := Registry.registerAll_cons_eq_ok_iff.mp h
    rw [List.map_cons] at hnames
    have hfree : ∀ b ∈ r.snapshot.bindings, b.name ≠ e.name := fun b hb =>
      (List.nodup_append.mp hnames).2.2 _ (List.mem_map_of_mem hb) _ List.mem_cons_self
    rcases Registry.register_eq_ok_iff.mp hregister with ⟨b, hfind, -⟩ | ⟨-, -, b, hbind, rfl⟩
    · rw [Registry.find?_eq_none_iff.mpr hfree] at hfind
      cases hfind
    · obtain ⟨hentry, -⟩ := Registry.entry_of_bind hbind
      have hname : b.name = e.name := congrArg Entry.name hentry
      rw [ih (r := r.publish (r.snapshot.bindings ++ [b])) _ hrest]
      · change (r.snapshot.bindings ++ [b]).map Binding.entry ++ entries = _
        rw [List.map_append, List.map_singleton, hentry, List.append_assoc, List.singleton_append]
      · change ((r.snapshot.bindings ++ [b]).map Binding.name ++ entries.map Entry.name).Nodup
        rwa [List.map_append, List.map_singleton, hname, List.append_assoc, List.singleton_append]

theorem registerAll_of_replay {t : Table κ}
    (h : (replay (Table.notify create) entries [t]).result = .ok ()) :
    ∃ r, Registry.registerAll create t.registry entries = .ok r ∧
      (replay (Table.notify create) entries [t]).listeners = [{ t with registry := r }] := by
  induction entries generalizing t with
  | nil => exact ⟨t.registry, rfl, rfl⟩
  | cons e entries ih =>
    unfold replay at h ⊢
    cases hrefusal : (Announcement.make (Table.notify create) (.register e) [t]).refusal with
    | some cause => simp [hrefusal] at h
    | none =>
      obtain ⟨u, _, hnotify, hnil, htold⟩ :=
        List.forall₂_cons_left_iff.mp (make_of_acceptance hrefusal)
      obtain rfl := List.forall₂_nil_left_iff.mp hnil
      obtain ⟨next, hregister, rfl⟩ := Table.notify_eq_ok_iff.mp hnotify
      simp only [hrefusal, htold] at h ⊢
      obtain ⟨r, hrest, hlisteners⟩ := ih h
      exact ⟨r, Registry.registerAll_cons_eq_ok_iff.mpr ⟨next, hregister, hrest⟩, hlisteners⟩

end Replay

section Following

theorem Event.perm_follow (event : Event) {others : List Entry} (h : entries.Perm others) :
    (event.follow entries).Perm (event.follow others) := by
  cases event with
  | register e => exact h.append_right [e]
  | update old e => exact h.map _
  | unregister name => exact h.filter _

end Following

namespace Federation

/-- What may happen to a running federation: its administration is asked for a change, or the status
of an entry is recorded. -/
inductive Action (κ : Type)
  | ask (create : Factory κ) (request : Administration.Request)
  | record (id : Nat) (status : Status)

variable {f : Federation κ}

def act (f : Federation κ) : Action κ → Federation κ
  | .ask create request => f.changed (f.administration.ask (Table.notify create) request)
  | .record id status =>
    { f with watch := { f.watch with inventory := f.inventory.record id status } }

/-- The federation after one action and another. -/
def run (f : Federation κ) (actions : List (Action κ)) : Federation κ := actions.foldl act f

/-- The bindings of the routing table are those of the entries in the inventory, each once; the
primary is the first entry; and available are the bindings whose entry in the inventory is not known
to be away. -/
structure InStep (f : Federation κ) : Prop where
  entries : (f.table.bindings.map Binding.entry).Perm f.inventory.entries
  once : (f.inventory.entries.map Entry.id).Nodup
  primaryFirst : f.inventory.entries.Pairwise fun _ e => e.definition.isPrimary = false
  available : ∀ b, b ∈ f.table.available f.statuses ↔ b ∈ f.table.bindings ∧
    ∃ e, f.inventory.find? b.name = some e ∧ f.inventory.status e ≠ .unavailable

/-- What carries the agreement through all actions. -/
structure Linked (f : Federation κ) : Prop where
  coherent : f.table.registry.Coherent
  orderly : f.inventory.Orderly
  entries : (f.table.bindings.map Binding.entry).Perm f.inventory.entries

theorem Linked.inStep (h : f.Linked) : f.InStep where
  entries := h.entries
  once := h.orderly.ids
  primaryFirst := h.orderly.primaryFirst
  available b := by
    have hfind : b ∈ f.table.bindings → f.inventory.find? b.name = some b.entry := by
      intro hb
      apply h.orderly.find?_eq_some_iff.mpr
      exact ⟨h.entries.mem_iff.mp (List.mem_map_of_mem hb), rfl⟩
    unfold Table.available
    rw [List.mem_filter]
    refine and_congr_right fun hb => ?_
    rw [hfind hb]
    unfold Binding.isAvailable
    simp only [Option.some.injEq, exists_eq_left', bne_iff_ne]
    rfl

section Change

variable {a : Administration (Table κ)} {request : Administration.Request}
  {plan : Administration.Plan} {t u : Table κ}

/-- A table follows a planned change. -/
theorem map_entry_notify (hcoherent : t.registry.Coherent)
    (hentries : (t.bindings.map Binding.entry).Perm a.inventory.entries)
    (hplan : a.Plans request plan) (hnotify : t.notify create plan.event = .ok u) :
    u.bindings.map Binding.entry = plan.event.follow (t.bindings.map Binding.entry) := by
  cases hplan with
  | @register d free fits =>
    rcases Table.of_notify_register hnotify with ⟨b, hfind, -⟩ | ⟨-, b, hbind, rfl⟩
    · obtain ⟨hb, hname⟩ := hcoherent.find?_eq_some_iff.mp hfind
      have hin : b.entry ∈ a.inventory.entries := hentries.mem_iff.mp (List.mem_map_of_mem hb)
      exact absurd hname (Inventory.find?_eq_none_iff.mp free b.entry hin)
    · rw [Table.bindings_publish, List.map_append, List.map_singleton,
        (Registry.entry_of_bind hbind).1]
      rfl
  | @update old d current found role fits =>
    obtain ⟨-, b, -, -, hbind, rfl⟩ := Table.of_notify_update hnotify
    change (t.bindings.map fun c => if c.name = old then b else c).map Binding.entry =
      (t.bindings.map Binding.entry).map fun f => if f.name = old then a.inventory.newEntry d else f
    rw [List.map_map, List.map_map]
    refine List.map_congr_left fun c _ => ?_
    change (if c.name = old then b else c).entry =
      if c.name = old then a.inventory.newEntry d else c.entry
    split_ifs
    · exact (Registry.entry_of_bind hbind).1
    · rfl
  | @unregister name current found federated =>
    obtain ⟨b, -, -, rfl⟩ := Table.of_notify_unregister hnotify
    change (t.bindings.filter fun c => c.name != name).map Binding.entry =
      (t.bindings.map Binding.entry).filter fun e => e.name != name
    rw [List.filter_map]
    rfl

/-- The planned inventory follows it too, but that a primary comes first. -/
theorem perm_follow_made (horderly : a.inventory.Orderly) (hplan : a.Plans request plan) :
    (plan.event.follow a.inventory.entries).Perm plan.made.entries := by
  cases hplan with
  | @register d free fits =>
    exact (List.perm_append_singleton ..).trans (Inventory.perm_insert a.inventory.advance _).symm
  | update found role fits =>
    exact .of_eq (horderly.advance.entries_replace_eq_map _ found).symm
  | @unregister name current found federated =>
    exact .of_eq (horderly.entries_remove_eq_filter name).symm

/-- A planned change does the same to the bindings of a table as to the entries of the inventory. -/
theorem entries_of_notify (hcoherent : t.registry.Coherent) (horderly : a.inventory.Orderly)
    (hentries : (t.bindings.map Binding.entry).Perm a.inventory.entries)
    (hplan : a.Plans request plan) (hnotify : t.notify create plan.event = .ok u) :
    (u.bindings.map Binding.entry).Perm plan.made.entries := by
  rw [map_entry_notify hcoherent hentries hplan hnotify]
  exact (plan.event.perm_follow hentries).trans (perm_follow_made horderly hplan)

/-- What a federation comes to when it is asked for a change. -/
inductive Asked (create : Factory κ) (request : Administration.Request) (f : Federation κ) :
    Federation κ → Prop
  | idle : Asked create request f f
  | refused {plan : Administration.Plan} {cause : RegistrationError}
      (plans : f.administration.Plans request plan)
      (refuses : f.table.notify create plan.event = .error cause) :
      Asked create request f { f with watch := { f.watch with inventory := plan.kept } }
  | made {plan : Administration.Plan} {t : Table κ}
      (plans : f.administration.Plans request plan)
      (takes : f.table.notify create plan.event = .ok t) :
      Asked create request f { f with table := t, watch := { f.watch with inventory := plan.made } }

theorem asked (create : Factory κ) (f : Federation κ) (request : Administration.Request) :
    f.Asked create request (f.changed (f.administration.ask (Table.notify create) request)) := by
  rcases Administration.ask_cases (Table.notify create) f.administration request with
    ⟨result, hasked⟩ | ⟨plan, hplan, hasked⟩
  · rw [hasked]
    exact .idle
  · rw [hasked]
    cases hresult : (tell (Table.notify create) plan.event plan.opposite [f.table]).result with
    | ok _ =>
      obtain ⟨t, _, htakes, hnil, htold⟩ :=
        List.forall₂_cons_left_iff.mp (tell_of_accepted hresult)
      obtain rfl := List.forall₂_nil_left_iff.mp hnil
      rw [Administration.carryOut_of_accepted hresult]
      unfold changed administration
      dsimp only
      rw [htold]
      exact .made hplan htakes
    | error cause =>
      obtain ⟨front, l, back, hsplit, -, hrefuses, htold, -⟩ := tell_of_refused hresult
      rw [Administration.carryOut_of_refused hresult]
      -- There is nobody in front of the only listener, so nobody has to go back.
      cases front with
      | cons k front => simp at hsplit
      | nil =>
        obtain ⟨rfl, rfl⟩ := List.cons.inj hsplit
        unfold changed administration
        dsimp only
        rw [htold]
        exact .refused hplan hrefuses

end Change

theorem Linked.asked (h : f.Linked) {request : Administration.Request} {g : Federation κ}
    (hasked : f.Asked create request g) : g.Linked := by
  cases hasked with
  | idle => exact h
  | @refused plan cause plans refuses =>
    refine ⟨h.coherent, (plans.orderly h.orderly).1, ?_⟩
    change (f.table.bindings.map Binding.entry).Perm plan.kept.entries
    rw [plans.kept_entries]
    exact h.entries
  | made plans takes =>
    exact ⟨Table.coherent_notify h.coherent takes, (plans.orderly h.orderly).2,
      entries_of_notify h.coherent h.orderly h.entries plans takes⟩

theorem linked_act (h : f.Linked) (action : Action κ) : (f.act action).Linked := by
  cases action with
  | ask create request => exact h.asked (asked create f request)
  | record id status => exact ⟨h.coherent, h.orderly.record id status, h.entries⟩

theorem linked_run (h : f.Linked) (actions : List (Action κ)) : (f.run actions).Linked := by
  induction actions generalizing f with
  | nil => exact h
  | cons action actions ih => exact ih (linked_act h action)

/-- A federation starts linked where its inventory is in order. -/
theorem linked_start {settings : Settings} {inventory : Inventory} (horderly : inventory.Orderly)
    (hstart : start create settings inventory = .ok f) : f.Linked := by
  unfold start at hstart
  split_ifs at hstart
  dsimp only at hstart
  split at hstart
  · cases hstart
  · next hresult =>
    cases hstart
    obtain ⟨r, hall, hlisteners⟩ := registerAll_of_replay hresult
    have hcoherent := Registry.coherent_empty (κ := κ) settings.resolution
    have hentries := Registry.map_entry_registerAll (r := .empty settings.resolution)
      horderly.names hall
    rw [hlisteners]
    exact ⟨(Registry.extended_registerAll hcoherent hall).coherent, horderly, .of_eq hentries⟩

/-- A federation that is started over the definitions of a valid file stays in step, whatever is
asked for, whichever clients can be made, and whatever the statuses are. -/
theorem inStep_run {settings : Settings} {file : FederationFile} {definitions : List Definition}
    (hholds : definitions.Perm file.definitions)
    (hvalid : file.validate settings.resolution = .ok ())
    (hstart : start create settings (.ofDefinitions definitions) = .ok f)
    (actions : List (Action κ)) : (f.run actions).InStep := by
  have hnames : (definitions.map Definition.name).Nodup :=
    (hholds.map Definition.name).nodup_iff.mpr (FederationFile.nodup_names_of_validate hvalid)
  have hprimaries := (hholds.pairwise_iff fun h hboth => h hboth.symm).mpr file.pairwise_primaries
  have horderly := Inventory.orderly_ofDefinitions definitions hnames hprimaries
  exact (linked_run (linked_start horderly hstart) actions).inStep

/-- A primary and a federated metastore. -/
def twoMetastores : FederationFile :=
  .ofSections (some { name := "primary", addresses := "a" })
    [{ name := "waggle", addresses := "b" }]

/-- Clients can be made for one address at a time, but not for several. -/
def singleAddress : Factory Unit := fun d =>
  if d.addressList.length = 1 then .ok () else .error (.connection d.addresses)

/-- A metastore gets another name, and is away from then on. Two others are refused: no client can
be made for the one, and the other one's whitelist is no list of expressions. -/
def renameAndRefuse : List (Action Unit) :=
  [.ask singleAddress (.update "waggle" { name := "wasp", addresses := "b" }),
    .record 2 .unavailable,
    .ask singleAddress (.register { name := "bee", addresses := "c,d" }),
    .ask singleAddress (.register
      { name := "hornet", addresses := "e", policy := .writeListed, whitelist := ["("] })]

theorem inStep_run_rename_and_refuse :
    ∃ f, start singleAddress {} (.ofDefinitions twoMetastores.definitions.reverse) = .ok f ∧
      (f.run renameAndRefuse).InStep ∧
      (f.run renameAndRefuse).table.bindings.map Binding.name = ["primary", "wasp"] ∧
      ((f.run renameAndRefuse).table.available (f.run renameAndRefuse).statuses).map Binding.name =
        ["primary"] := by
  have hcomputed : (start singleAddress {}
      (.ofDefinitions twoMetastores.definitions.reverse)).toOption.map (fun f =>
        ((f.run renameAndRefuse).table.bindings.map Binding.name,
          ((f.run renameAndRefuse).table.available (f.run renameAndRefuse).statuses).map
            Binding.name)) = some (["primary", "wasp"], ["primary"]) := by decide
  cases hstart : start singleAddress {} (.ofDefinitions twoMetastores.definitions.reverse) with
  | error cause =>
    rw [hstart] at hcomputed
    cases hcomputed
  | ok f =>
    rw [hstart] at hcomputed
    obtain ⟨hnames, havailable⟩ := Prod.mk.inj (Option.some.inj hcomputed)
    have hinStep := inStep_run (List.reverse_perm twoMetastores.definitions) (by decide) hstart
      renameAndRefuse
    exact ⟨f, rfl, hinStep, hnames, havailable⟩

end Federation

end MetastoreFederation
