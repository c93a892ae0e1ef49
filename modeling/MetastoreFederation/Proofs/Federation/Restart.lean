import MetastoreFederation.Proofs.Federation.File
import MetastoreFederation.Proofs.Federation.Operations
import MetastoreFederation.Proofs.Routing.Definitions
import MetastoreFederation.Proofs.Routing.RegistrationOrder
import MetastoreFederation.Proofs.Yaml.Tokens

/-!
A federation that is started again from the file it leaves. The inventory and the routing table
keep the federated metastores in one order, through all that is asked for; only the primary may
stand elsewhere. The file holds the definitions of the inventory in their order, so the table that
is made from it leads every name to the same definition.
-/

set_option autoImplicit false
set_option relaxedAutoImplicit false

namespace MetastoreFederation

open Metastore Routing

variable {κ : Type}

section Order

/-- The federated ones among entries. -/
def federatedEntries (entries : List Entry) : List Entry :=
  entries.filter fun e => !e.definition.isPrimary

theorem federatedOf_map_definition (entries : List Entry) :
    federatedOf (entries.map Entry.definition) =
      (federatedEntries entries).map Entry.definition := by
  unfold federatedOf federatedEntries
  rw [List.filter_map]
  rfl

/-- A change that keeps roles does to the federated entries what it does to all. -/
theorem federatedEntries_follow {event : Event} {entries others : List Entry}
    (hroles : ∀ old e, event = .update old e → ∀ f ∈ entries ++ others, f.name = old →
      f.definition.isPrimary = e.definition.isPrimary)
    (h : federatedEntries entries = federatedEntries others) :
    federatedEntries (event.follow entries) = federatedEntries (event.follow others) := by
  unfold federatedEntries at h ⊢
  cases event with
  | register e =>
    unfold Event.follow
    rw [List.filter_append, List.filter_append, h]
  | update old e =>
    -- No entry changes its role by this, so the federated ones may be taken before or after.
    have hput : ∀ l : List Entry, (∀ f ∈ l, f ∈ entries ++ others) →
        ((Event.update old e).follow l).filter (fun f => !f.definition.isPrimary) =
          (Event.update old e).follow (l.filter fun f => !f.definition.isPrimary) := by
      intro l hl
      unfold Event.follow
      dsimp only
      rw [List.filter_map]
      refine congrArg _ (List.filter_congr fun f hf => ?_)
      by_cases hname : f.name = old
      · have hrole := hroles old e rfl f (hl f hf) hname
        simp [hname, hrole]
      · simp [hname]
    rw [hput entries fun f hf => List.mem_append_left _ hf,
      hput others fun f hf => List.mem_append_right _ hf, h]
  | unregister name =>
    unfold Event.follow
    dsimp only
    rw [List.filter_comm, h, List.filter_comm]

variable {a : Administration (Table κ)} {request : Administration.Request}
  {plan : Administration.Plan}

/-- In the planned inventory the federated entries stand as if all had followed the change. -/
theorem federatedEntries_made (horderly : a.inventory.Orderly) (hplan : a.Plans request plan) :
    federatedEntries plan.made.entries =
      federatedEntries (plan.event.follow a.inventory.entries) := by
  cases hplan with
  | @register d free fits =>
    change federatedEntries (a.inventory.advance.insert (a.inventory.newEntry d)).entries =
      federatedEntries (a.inventory.entries ++ [a.inventory.newEntry d])
    unfold Inventory.insert federatedEntries
    split_ifs with hprimary
    · rw [List.filter_append, List.filter_cons_of_neg (by simp [hprimary])]
      simp [hprimary, Inventory.advance]
    · rfl
  | update found role fits =>
    exact congrArg federatedEntries (horderly.advance.entries_replace_eq_map _ found)
  | @unregister name current found federated =>
    exact congrArg federatedEntries (horderly.entries_remove_eq_filter name)

theorem role_of_update (horderly : a.inventory.Orderly) (hplan : a.Plans request plan)
    {old : String} {e : Entry} (hevent : plan.event = .update old e) {f : Entry}
    (hf : f ∈ a.inventory.entries) (hname : f.name = old) :
    f.definition.isPrimary = e.definition.isPrimary := by
  cases hplan with
  | register => cases hevent
  | @update named d current found role fits =>
    cases hevent
    obtain rfl := Option.some.inj
      (found.symm.trans (horderly.find?_eq_some_iff.mpr ⟨hf, hname⟩))
    exact congrArg Role.isPrimary role
  | unregister => cases hevent

end Order

section File

theorem ofFile_of_parse {path text : String} {file : FederationFile}
    (hparse : FederationFile.parse text = .ok file) :
    Inventory.ofFile path (some text) = .ok (.ofDefinitions file.definitions) := by
  unfold Inventory.ofFile
  dsimp only
  rw [hparse]
  rfl

/-- A file of definitions of which at most the first is a primary is read with the same
definitions, if its text is read as it was written. -/
theorem ofFile_toFile {i : Inventory}
    (hfirst : i.definitions.Pairwise fun _ e => e.isPrimary = false)
    (htext : Yaml.Printer.Reproduced (FederationFile.ofDefinitions i.definitions).toDatum)
    (path : String) :
    Inventory.ofFile path (some i.toFile) = .ok (.ofDefinitions i.definitions) := by
  have hparse := FederationFile.parse_render htext
  rw [Inventory.toFile, ofFile_of_parse hparse, FederationFile.definitions_ofDefinitions hfirst]

end File

section Binding

variable {create : Factory κ} {t u : Table κ} {r : Registry κ} {entries : List Entry}

/-- A binding that comes with a change was made with the factory at hand. -/
theorem bindable_of_notify {event : Event} (hnotify : t.notify create event = .ok u)
    {b : Binding κ} (hb : b ∈ u.bindings) : b ∈ t.bindings ∨ Bindable create b.definition := by
  have hmade : ∀ {e : Entry} {c : Binding κ}, t.registry.bind create e = .ok c →
      Bindable create c.definition := by
    intro e c hbind
    rw [(Registry.bind_eq_ok hbind).1]
    exact Registry.exists_bind_iff.mp ⟨c, hbind⟩
  cases event with
  | register e =>
    rcases Table.of_notify_register hnotify with ⟨-, -, -, rfl⟩ | ⟨-, c, hbind, rfl⟩
    · exact .inl hb
    · rcases List.mem_append.mp hb with hb | hb
      · exact .inl hb
      · obtain rfl := List.mem_singleton.mp hb
        exact .inr (hmade hbind)
  | update old e =>
    obtain ⟨-, c, -, -, hbind, rfl⟩ := Table.of_notify_update hnotify
    obtain ⟨d, hd, rfl⟩ := List.mem_map.mp hb
    split_ifs
    · exact .inr (hmade hbind)
    · exact .inl hd
  | unregister name =>
    obtain ⟨-, -, -, rfl⟩ := Table.of_notify_unregister hnotify
    exact .inl (List.mem_of_mem_filter hb)

theorem bindable_of_registerAll {resolution : Resolution}
    (hall : Registry.registerAll create (.empty resolution) entries = .ok r) {b : Binding κ}
    (hb : b ∈ r.snapshot.bindings) : Bindable create b.definition := by
  have hd : b.definition ∈ entries.map Entry.definition :=
    (Registry.definitions_of_registerAll hall _).mp (List.mem_map_of_mem hb)
  have hcoherent := Registry.coherent_empty (κ := κ) resolution
  rcases ((Registry.exists_registerAll_iff hcoherent).mp ⟨r, hall⟩).1 _ hd with hin | hjoins
  · cases hin
  · exact hjoins.bindable

/-- Whether a definition can be bound is, beside the client, a matter of the definition. -/
theorem bindable_of_client {create' : Factory κ} {d : Definition} (h : Bindable create d)
    (hclient : ∃ client, create' d = .ok client) : Bindable create' d :=
  ⟨hclient, h.gate, h.filters⟩

end Binding

namespace Federation

variable {create : Factory κ} {factories : List (Factory κ)} {f g : Federation κ}

/-- The factory with which a change is asked for. -/
def Operation.factory? : Operation κ → Option (Factory κ)
  | .change create _ => some create
  | _ => none

/-- What a federation keeps, so that its inventory can be registered anew and comes to the same. -/
structure Renewable (factories : List (Factory κ)) (f : Federation κ) : Prop where
  linked : f.Linked
  timely : f.outlook.Timely
  resolution : f.table.resolution = f.settings.resolution
  order : federatedEntries (f.table.bindings.map Binding.entry) =
    federatedEntries f.inventory.entries
  bound : ∀ b ∈ f.table.bindings, ∃ create ∈ factories, Bindable create b.definition

theorem renewable_start {settings : Settings} {inventory : Inventory}
    (horderly : inventory.Orderly) (hstart : start create settings inventory = .ok f)
    (hcreate : create ∈ factories) : f.Renewable factories := by
  have hlinked := linked_start horderly hstart
  obtain ⟨-, r, hall, rfl⟩ := start_eq_ok_iff.mp hstart
  have hentries := Registry.map_entry_registerAll (r := .empty settings.resolution)
    horderly.names hall
  refine ⟨hlinked, timely_ofInventory inventory, ?_, congrArg federatedEntries hentries,
    fun b hb => ?_⟩
  · exact (Registry.extended_registerAll (Registry.coherent_empty _) hall).resolution
  · exact ⟨create, hcreate, bindable_of_registerAll hall hb⟩

theorem Renewable.ready (h : f.Renewable factories) : f.Ready :=
  ⟨h.linked.orderly.fresh, h.timely⟩

theorem Renewable.asked (h : f.Renewable factories) {request : Administration.Request}
    (hasked : f.Asked create request g) (hcreate : create ∈ factories) :
    g.Renewable factories := by
  have hlinked := h.linked.asked hasked
  have htimely := (h.ready.asked hasked).timely
  cases hasked with
  | idle => exact h
  | @refused plan cause plans refuses =>
    refine ⟨hlinked, htimely, h.resolution, ?_, h.bound⟩
    change _ = federatedEntries plan.kept.entries
    rw [plans.kept_entries]
    exact h.order
  | @made plan t plans takes =>
    refine ⟨hlinked, htimely, (Table.resolution_notify takes).trans h.resolution, ?_,
      fun b hb => ?_⟩
    · change federatedEntries (t.bindings.map Binding.entry) = federatedEntries plan.made.entries
      rw [map_entry_notify h.linked.coherent h.linked.entries plans takes,
        federatedEntries_made h.linked.orderly plans]
      refine federatedEntries_follow (fun old e hevent x hx hname => ?_) h.order
      refine role_of_update h.linked.orderly plans hevent ?_ hname
      rcases List.mem_append.mp hx with hx | hx
      · exact h.linked.entries.mem_iff.mp hx
      · exact hx
    · rcases bindable_of_notify takes hb with hb | hbindable
      · exact h.bound b hb
      · exact ⟨create, hcreate, hbindable⟩

theorem Renewable.undisturbed (h : f.Renewable factories) {trace : List Happening}
    (hundisturbed : f.Undisturbed trace g) : g.Renewable factories := by
  have hregistry := hundisturbed.registry
  have hbindings : g.table.bindings = f.table.bindings :=
    congrArg (fun r => r.snapshot.bindings) hregistry
  have hlinked : g.Linked := by
    refine ⟨hregistry ▸ h.linked.coherent, ?_, ?_⟩
    · exact Moment.orderly_of_entries h.linked.orderly hundisturbed.entries hundisturbed.nextId
    · rw [hbindings, hundisturbed.entries]
      exact h.linked.entries
  refine ⟨hlinked, hundisturbed.timely h.timely, ?_, ?_, ?_⟩
  · rw [hundisturbed.settings, ← h.resolution]
    exact congrArg Registry.resolution hregistry
  · rw [hbindings, hundisturbed.entries]
    exact h.order
  · rw [hbindings]
    exact h.bound

theorem renewable_operations (h : f.Renewable factories) {operations : List (Operation κ)}
    (hfactories : ∀ create ∈ operations.filterMap Operation.factory?, create ∈ factories) :
    (operations.foldl operate f).Renewable factories := by
  induction operations generalizing f with
  | nil => exact h
  | cons operation operations ih =>
    have hlater : ∀ create ∈ operations.filterMap Operation.factory?, create ∈ factories := by
      intro create hmem
      obtain ⟨o, ho, hfactory⟩ := List.mem_filterMap.mp hmem
      exact hfactories create
        (List.mem_filterMap.mpr ⟨o, List.mem_cons_of_mem _ ho, hfactory⟩)
    refine ih ?_ hlater
    rcases operate_cases h.ready operation with
      ⟨create, request, rfl, hasked⟩ | ⟨trace, hundisturbed, -⟩
    · have hcreate := hfactories create
        (List.mem_filterMap.mpr ⟨_, List.mem_cons_self, rfl⟩)
      exact h.asked hasked hcreate
    · exact h.undisturbed hundisturbed

/-- The definition of the metastore to which a name leads. -/
def served (f : Federation κ) (database : String) : Except RoutingError Definition :=
  (f.table.resolve database).map fun found => found.1.definition

theorem served_eq {t u : Table κ} (ht : t.registry.Coherent) (hu : u.registry.Coherent)
    (hresolution : u.resolution = t.resolution)
    (horder : federatedOf (u.bindings.map Binding.definition) =
      federatedOf (t.bindings.map Binding.definition))
    (hprimary : (u.bindings.map Binding.definition).find? Definition.isPrimary =
      (t.bindings.map Binding.definition).find? Definition.isPrimary) (database : String) :
    (u.resolve database).map (fun found => found.1.definition) =
      (t.resolve database).map fun found => found.1.definition := by
  rw [Table.map_definition_resolve hu, Table.map_definition_resolve ht, hresolution]
  exact servingAmong_eq horder hprimary _

section Renewed

theorem Renewable.primaryFirst (h : f.Renewable factories) :
    f.inventory.definitions.Pairwise fun _ e => e.isPrimary = false :=
  List.pairwise_map.mpr h.linked.orderly.primaryFirst

theorem Renewable.perm_definitions (h : f.Renewable factories) :
    (f.table.bindings.map Binding.definition).Perm f.inventory.definitions := by
  have hperm := h.linked.entries.map Entry.definition
  rwa [List.map_map] at hperm

/-- All definitions can be registered anew, since each was bound and they agreed. -/
theorem Renewable.exists_registerAll (h : f.Renewable factories)
    (hclients : ∀ create' ∈ factories, ∀ d, (∃ client, create' d = .ok client) →
      ∃ client, create d = .ok client) :
    ∃ r, Registry.registerAll create (.empty f.settings.resolution)
      (Inventory.ofDefinitions f.inventory.definitions).entries = .ok r := by
  have hresolution : f.table.registry.resolution = f.settings.resolution := h.resolution
  refine (Registry.exists_registerAll_iff (Registry.coherent_empty _)).mpr ?_
  change (∀ d ∈ (Inventory.ofDefinitions f.inventory.definitions).definitions, _) ∧
    (Inventory.ofDefinitions f.inventory.definitions).definitions.Pairwise _
  rw [Inventory.definitions_ofDefinitions h.primaryFirst]
  constructor
  · intro d hd
    obtain ⟨b, hb, rfl⟩ := List.mem_map.mp (h.perm_definitions.mem_iff.mpr hd)
    obtain ⟨create', hcreate', hbindable⟩ := h.bound b hb
    refine .inr ⟨h.linked.coherent.problems b hb, nofun, bindable_of_client hbindable ?_⟩
    exact hclients create' hcreate' b.definition hbindable.client
  · refine List.pairwise_of_forall_mem_list fun d hd e he => ?_
    have hagree := h.linked.coherent.agree (h.perm_definitions.mem_iff.mpr hd)
      (h.perm_definitions.mem_iff.mpr he)
    rwa [hresolution] at hagree

/-- The definitions are bound in the order of the inventory that starts with them. -/
theorem Renewable.map_definition_registerAll (h : f.Renewable factories) {r : Registry κ}
    (hall : Registry.registerAll create (.empty f.settings.resolution)
      (Inventory.ofDefinitions f.inventory.definitions).entries = .ok r) :
    r.snapshot.bindings.map Binding.definition = f.inventory.definitions := by
  have hsame := Inventory.definitions_ofDefinitions h.primaryFirst
  have hnames : ((Inventory.ofDefinitions f.inventory.definitions).entries.map
      Entry.name).Nodup := by
    have hmap := congrArg (List.map Definition.name) hsame
    unfold Inventory.definitions at hmap
    rw [List.map_map, List.map_map] at hmap
    exact hmap ▸ h.linked.orderly.names
  have hentries := congrArg (List.map Entry.definition)
    (Registry.map_entry_registerAll (r := .empty f.settings.resolution) hnames hall)
  rw [List.map_map] at hentries
  exact hentries.trans hsame

/-- A federation that starts over the definitions of one that could be renewed leads every name to
the same definition. -/
theorem Renewable.renewed (h : f.Renewable factories)
    (hsettings : f.settings.problems = [])
    (hclients : ∀ create' ∈ factories, ∀ d, (∃ client, create' d = .ok client) →
      ∃ client, create d = .ok client) :
    ∃ g, start create f.settings (.ofDefinitions f.inventory.definitions) = .ok g ∧
      g.inventory.definitions = f.inventory.definitions ∧
      ∀ database, g.served database = f.served database := by
  obtain ⟨r, hall⟩ := h.exists_registerAll hclients
  have hextended := Registry.extended_registerAll (Registry.coherent_empty _) hall
  have hdefinitions := h.map_definition_registerAll hall
  refine ⟨_, start_eq_ok_iff.mpr ⟨hsettings, r, hall, rfl⟩,
    Inventory.definitions_ofDefinitions h.primaryFirst, fun database => ?_⟩
  refine served_eq h.linked.coherent hextended.coherent ?_ ?_ ?_ database
  · exact hextended.resolution.trans h.resolution.symm
  · change federatedOf (r.snapshot.bindings.map Binding.definition) = _
    have horder := congrArg (List.map Entry.definition) h.order
    rw [← federatedOf_map_definition, ← federatedOf_map_definition, List.map_map] at horder
    rw [hdefinitions]
    exact horder.symm
  · change (r.snapshot.bindings.map Binding.definition).find? Definition.isPrimary = _
    rw [hdefinitions]
    refine (find?_isPrimary_of_perm h.perm_definitions
      (h.primaryFirst.imp fun hlater hboth => ?_)).symm
    rw [hlater] at hboth
    cases hboth.2

end Renewed

/-- A federation that was started from a valid file and that keeps its file, is asked for changes
and for whatever else, and ends. From the file it leaves it is started again with the same
definitions in the same order, and every name leads to the same definition as before, or fails as
before. For that the text has to be read as it was written, and clients have to be made for all
definitions for which they could be made before. -/
theorem served_restarted {create' : Factory κ} {settings : Settings} {path text : String}
    {file : FederationFile} {inventory : Inventory} {last : Federation κ}
    (hparse : FederationFile.parse text = .ok file)
    (hvalid : file.validate settings.resolution = .ok ())
    (hload : Inventory.ofFile path (some text) = .ok inventory)
    (hoverwrite : settings.overwriteOnShutdown = true)
    (hstart : start create settings inventory = .ok f)
    {operations : List (Operation κ)} (hlast : operations.foldl operate f = last)
    (hclients : ∀ made ∈ create :: operations.filterMap Operation.factory?, ∀ d,
      (∃ client, made d = .ok client) → ∃ client, create' d = .ok client)
    (htext : Yaml.Printer.Reproduced
      (FederationFile.ofDefinitions last.inventory.definitions).toDatum)
    (s : Surroundings κ) :
    ∃ written loaded g, (last.stop s).fileOnShutdown = some written ∧
      Inventory.ofFile path (some written) = .ok loaded ∧
      start create' settings loaded = .ok g ∧
      g.inventory.definitions = last.inventory.definitions ∧
      ∀ database, g.served database = last.served database := by
  have horderly : inventory.Orderly := by
    cases (ofFile_of_parse hparse).symm.trans hload
    exact Inventory.orderly_ofDefinitions _ (FederationFile.nodup_names_of_validate hvalid)
      file.pairwise_primaries
  have hsettings : f.settings = settings := by
    obtain ⟨-, r, -, rfl⟩ := start_eq_ok_iff.mp hstart
    rfl
  have hstarted : f.Renewable (create :: operations.filterMap Operation.factory?) :=
    renewable_start horderly hstart List.mem_cons_self
  have hkept : last.settings = settings :=
    hlast ▸ (settings_operations hstarted.ready operations).trans hsettings
  have hrenewable : last.Renewable (create :: operations.filterMap Operation.factory?) :=
    hlast ▸ renewable_operations hstarted fun made hmade => List.mem_cons_of_mem _ hmade
  -- The end of the refreshes touches nothing that is written to the file.
  obtain ⟨_, hstopped, -⟩ := undisturbed_stop s hrenewable.ready
  have hdefinitions : (last.stop s).inventory.definitions = last.inventory.definitions :=
    congrArg (List.map Entry.definition) hstopped.entries
  have hloaded := ofFile_toFile (i := (last.stop s).inventory)
    (hdefinitions ▸ hrenewable.primaryFirst) (hdefinitions ▸ htext) path
  rw [hdefinitions] at hloaded
  obtain ⟨g, hagain, hsame, hserved⟩ := hrenewable.renewed
    (hkept ▸ (start_eq_ok_iff.mp hstart).1) hclients
  refine ⟨_, _, g, ?_, hloaded, hkept ▸ hagain, hsame, hserved⟩
  unfold fileOnShutdown
  rw [if_pos (hstopped.settings.trans hkept ▸ hoverwrite)]

/-- A file with one federated metastore. -/
def loneWasp : FederationFile := .ofSections none [{ name := "w", addresses := "b" }]

def loneWaspText : String := "federated-meta-stores: [\x7bname: w, remote-meta-store-uris: b\x7d]"

/-- A primary is bound behind the federated metastore, while it stands before it in the inventory.
No client can be made for another metastore, and then the federated one gets another name. -/
def primaryLast : List (Operation Unit) :=
  [.change singleAddress (.register { name := "p", role := .primary, addresses := "a" }),
    .startPolling,
    .change singleAddress (.register { name := "x", addresses := "c,d" }),
    .change singleAddress (.update "w" { name := "v", addresses := "b" })]

/-- The definitions that are left, in the order of the inventory. -/
def primaryAndWasp : List Definition :=
  [{ name := "p", role := .primary, addresses := "a" }, { name := "v", addresses := "b" }]

set_option maxRecDepth 100000 in
theorem parse_loneWaspText : FederationFile.parse loneWaspText = .ok loneWasp := by
  decide +kernel

set_option maxRecDepth 100000 in
theorem reproduced_primaryAndWasp :
    Yaml.Printer.Reproduced (FederationFile.ofDefinitions primaryAndWasp).toDatum :=
  Yaml.Printer.reproduced_of_scan (by decide +kernel)

/-- Surroundings in which nothing answers. -/
def silence : Surroundings Unit :=
  ⟨singleAddress, fun _ => ⟨fun _ => .silent, .silent⟩, fun _ => .silent, 1⟩

theorem served_restarted_primary_last :
    ∃ f last, start singleAddress { overwriteOnShutdown := true }
        (.ofDefinitions loneWasp.definitions) = .ok f ∧
      primaryLast.foldl operate f = last ∧
      last.table.bindings.map Binding.name = ["v", "p"] ∧
      last.inventory.definitions = primaryAndWasp ∧
      ∃ written loaded g, (last.stop silence).fileOnShutdown = some written ∧
        Inventory.ofFile "federation.yml" (some written) = .ok loaded ∧
        start singleAddress { overwriteOnShutdown := true } loaded = .ok g ∧
        g.inventory.definitions = last.inventory.definitions ∧
        ∀ database, g.served database = last.served database := by
  have hcomputed : (start singleAddress { overwriteOnShutdown := true }
      (.ofDefinitions loneWasp.definitions)).toOption.map (fun f =>
        ((primaryLast.foldl operate f).table.bindings.map Binding.name,
          (primaryLast.foldl operate f).inventory.definitions)) =
      some (["v", "p"], primaryAndWasp) := by decide
  cases hstart : start singleAddress { overwriteOnShutdown := true }
      (.ofDefinitions loneWasp.definitions) with
  | error cause =>
    rw [hstart] at hcomputed
    cases hcomputed
  | ok f =>
    rw [hstart] at hcomputed
    obtain ⟨hnames, hdefinitions⟩ := Prod.mk.inj (Option.some.inj hcomputed)
    have hfactory : ∀ made ∈ singleAddress :: primaryLast.filterMap Operation.factory?,
        made = singleAddress := by
      simp [primaryLast, Operation.factory?]
    have htext : Yaml.Printer.Reproduced (FederationFile.ofDefinitions
        (primaryLast.foldl operate f).inventory.definitions).toDatum :=
      hdefinitions ▸ reproduced_primaryAndWasp
    refine ⟨f, _, rfl, rfl, hnames, hdefinitions, ?_⟩
    refine served_restarted parse_loneWaspText (by decide) (ofFile_of_parse parse_loneWaspText)
      rfl hstart rfl (fun made hmade d hclient => ?_) htext silence
    rwa [hfactory made hmade] at hclient

end Federation

end MetastoreFederation
