import MetastoreFederation.Proofs.Routing.Effects
import MetastoreFederation.Proofs.Routing.Ownership

/-!
The roster: which entries some changes leave registered, told from the changes alone. The bindings
of a registry are those of the entries on the roster, and the metastore that serves a name is found
as by a scan of them.
-/

set_option autoImplicit false
set_option relaxedAutoImplicit false

namespace MetastoreFederation

open Metastore Routing

variable {κ : Type}

namespace Event

/-- What a change does to the entries that are bound, in the order of the bindings. -/
def follow : Event → List Entry → List Entry
  | .register e, entries => entries ++ [e]
  | .update old e, entries => entries.map fun f => if f.name = old then e else f
  | .unregister name, entries => entries.filter fun e => e.name != name

/-- A change of registered entries takes effect. What comes can join what stays, and takes the place
of nothing but what has its role; the primary does not go. -/
def TakesEffect (create : Factory κ) (resolution : Resolution) (entries : List Entry) :
    Event → Prop
  | .register e => Joins create resolution (entries.map Entry.definition) e.definition
  | .update old e => (∃ f ∈ entries, f.name = old ∧ f.definition.role = e.definition.role) ∧
      Joins create resolution ((entries.map Entry.definition).filter fun d => d.name != old)
        e.definition
  | .unregister name => ∃ e ∈ entries, e.name = name ∧ e.definition.isPrimary = false

instance (create : Factory κ) (resolution : Resolution) (entries : List Entry) (event : Event) :
    Decidable (event.TakesEffect create resolution entries) := by
  cases event <;>
  · unfold TakesEffect
    infer_instance

end Event

namespace Routing

/-- The registered entries after a change was asked for. One that cannot take effect changes
nothing. -/
def enroll (resolution : Resolution) (entries : List Entry) (asked : Factory κ × Event) :
    List Entry :=
  if asked.2.TakesEffect asked.1 resolution entries then asked.2.follow entries else entries

/-- The entries that are registered after changes were asked for one after another, in the order of
their registration; what replaces an entry takes its place. -/
def roster (resolution : Resolution) (changes : List (Factory κ × Event)) : List Entry :=
  changes.foldl (enroll resolution) []

/-- Bindings are those that changes have left registered: just those of the entries on the roster,
with their own prefixes, and with clients that were made for their definitions. -/
structure Enrolled (resolution : Resolution) (changes : List (Factory κ × Event))
    (bindings : List (Binding κ)) : Prop where
  entries : bindings.map Binding.entry = roster resolution changes
  prefixes : resolution = .prefixed → ∀ b ∈ bindings, b.databasePrefix = b.definition.databasePrefix
  clients : ∀ b ∈ bindings, ∃ asked ∈ changes, asked.1 b.definition = .ok b.client

namespace Registry

variable {r s : Registry κ} {create : Factory κ}

/-- The entries that are bound. -/
def entries (r : Registry κ) : List Entry := r.snapshot.bindings.map Binding.entry

theorem map_definition_entries (r : Registry κ) :
    r.entries.map Entry.definition = r.snapshot.definitions := List.map_map

theorem takesEffect_register_iff {e : Entry} :
    (Event.register e).TakesEffect create r.resolution r.entries ↔
      Joins create r.resolution r.snapshot.definitions e.definition := by
  unfold Event.TakesEffect
  rw [map_definition_entries]

theorem takesEffect_update_iff {old : String} {e : Entry} :
    (Event.update old e).TakesEffect create r.resolution r.entries ↔
      (∃ f ∈ r.entries, f.name = old ∧ f.definition.role = e.definition.role) ∧
        Joins create r.resolution (r.snapshot.definitions.filter fun d => d.name != old)
          e.definition := by
  unfold Event.TakesEffect
  rw [map_definition_entries]

/-- What can be bound and is accepted beside others can join them. -/
theorem joins_of_bind {others : List Definition} {e : Entry} {b : Binding κ}
    (hcheck : checkCompatible r.resolution others e.definition = .ok ())
    (hbind : r.bind create e = .ok b) : Joins create r.resolution others e.definition := by
  obtain ⟨hproblems, hcompatible⟩ := (checkCompatible_eq_ok_iff ..).mp hcheck
  exact ⟨hproblems, hcompatible, exists_bind_iff.mp ⟨b, hbind⟩⟩

namespace Coherent

/-- A change that is accepted does what it does to the roster. -/
theorem entries_change (h : r.Coherent) {event : Event} (hchange : r.change create event = .ok s) :
    s.entries = enroll r.resolution r.entries (create, event) := by
  unfold enroll
  dsimp only
  cases event with
  | register e =>
    rcases register_eq_ok_iff.mp hchange with ⟨b, hfind, hsame, rfl⟩ | ⟨-, hcheck, b, hbind, rfl⟩
    · -- The definition is there already, so it cannot join.
      have hb : e.definition ∈ s.snapshot.definitions := by
        rw [← hsame]
        exact List.mem_map_of_mem (h.find?_eq_some_iff.mp hfind).1
      refine (if_neg fun heffect => ?_).symm
      exact ((takesEffect_register_iff.mp heffect).compatible _ hb).names rfl
    · rw [if_pos (takesEffect_register_iff.mpr (joins_of_bind hcheck hbind))]
      change (r.snapshot.bindings ++ [b]).map Binding.entry = r.entries ++ [e]
      rw [List.map_append, List.map_singleton, (entry_of_bind hbind).1]
      rfl
  | update old e =>
    obtain ⟨replaced, hfind, hrole, hcheck, b, hbind, rfl⟩ := update_eq_ok_iff.mp hchange
    obtain ⟨hreplaced, hname⟩ := h.find?_eq_some_iff.mp hfind
    have hfound : ∃ f ∈ r.entries, f.name = old ∧ f.definition.role = e.definition.role :=
      ⟨_, List.mem_map_of_mem hreplaced, hname, hrole⟩
    rw [if_pos (takesEffect_update_iff.mpr ⟨hfound, joins_of_bind hcheck hbind⟩)]
    change (r.snapshot.bindings.map fun c => if c.name = old then b else c).map Binding.entry =
      (r.snapshot.bindings.map Binding.entry).map fun f => if f.name = old then e else f
    rw [List.map_map, List.map_map]
    refine List.map_congr_left fun c _ => ?_
    change (if c.name = old then b else c).entry = if c.name = old then e else c.entry
    split_ifs
    · exact (entry_of_bind hbind).1
    · rfl
  | unregister name =>
    obtain ⟨b, hfind, hfederated, rfl⟩ := unregister_eq_ok_iff.mp hchange
    obtain ⟨hb, hname⟩ := h.find?_eq_some_iff.mp hfind
    have hfound : (Event.unregister name).TakesEffect create r.resolution r.entries :=
      ⟨_, List.mem_map_of_mem hb, hname, hfederated⟩
    rw [if_pos hfound]
    change (r.snapshot.bindings.filter fun c => c.name != name).map Binding.entry =
      (r.snapshot.bindings.map Binding.entry).filter fun e => e.name != name
    rw [List.filter_map]
    rfl

/-- A change that can take effect is accepted. -/
theorem exists_change_of_takesEffect (h : r.Coherent) {event : Event}
    (heffect : event.TakesEffect create r.resolution r.entries) :
    ∃ s, r.change create event = .ok s := by
  cases event with
  | register e => exact h.exists_register_iff.mpr (.inr (takesEffect_register_iff.mp heffect))
  | update old e =>
    obtain ⟨⟨_, hmem, hname, hrole⟩, hjoins⟩ := takesEffect_update_iff.mp heffect
    obtain ⟨replaced, hreplaced, rfl⟩ := List.mem_map.mp hmem
    obtain ⟨b, hbind⟩ := exists_bind_iff.mpr hjoins.bindable
    have hcheck := (checkCompatible_eq_ok_iff ..).mpr ⟨hjoins.problems, hjoins.compatible⟩
    exact ⟨_, update_eq_ok_iff.mpr ⟨replaced, h.find?_eq_some_iff.mpr ⟨hreplaced, hname⟩, hrole,
      hcheck, b, hbind, rfl⟩⟩
  | unregister name =>
    obtain ⟨_, hmem, hname, hfederated⟩ := heffect
    obtain ⟨b, hb, rfl⟩ := List.mem_map.mp hmem
    exact ⟨_, unregister_eq_ok_iff.mpr ⟨b, h.find?_eq_some_iff.mpr ⟨hb, hname⟩, hfederated, rfl⟩⟩

theorem entries_after (h : r.Coherent) (asked : Factory κ × Event) :
    (r.after asked).entries = enroll r.resolution r.entries asked := by
  unfold after
  split
  · next s hchange => exact h.entries_change hchange
  · next cause hrefused =>
    refine (if_neg fun heffect => ?_).symm
    obtain ⟨s, hchange⟩ := h.exists_change_of_takesEffect heffect
    rw [hrefused] at hchange
    cases hchange

theorem entries_run (h : r.Coherent) (changes : List (Factory κ × Event)) :
    (r.run changes).entries = changes.foldl (enroll r.resolution) r.entries := by
  induction changes generalizing r with
  | nil => rfl
  | cons asked changes ih =>
    have hstep := after_step r asked
    change ((r.after asked).run changes).entries = _
    rw [ih (h.step hstep), hstep.resolution_eq, h.entries_after, List.foldl_cons]

end Coherent

/-- A client that a change brings in was made with the change, for the definition that is bound. -/
theorem client_of_bind {e : Entry} {b : Binding κ} (hbind : r.bind create e = .ok b) :
    create b.definition = .ok b.client := by
  obtain ⟨client, hclient, hmake⟩ := bind_binding_eq_ok_iff.mp hbind
  obtain ⟨gate, filters, -, -, rfl⟩ := make_eq_ok_iff.mp hmake
  exact hclient

theorem client_after {asked : Factory κ × Event} {b : Binding κ}
    (hb : b ∈ (r.after asked).snapshot.bindings) :
    b ∈ r.snapshot.bindings ∨ asked.1 b.definition = .ok b.client := by
  obtain ⟨create, event⟩ := asked
  unfold after at hb
  split at hb
  · next s hchange =>
    cases event with
    | register e =>
      rcases register_eq_ok_iff.mp hchange with ⟨-, -, -, rfl⟩ | ⟨-, -, c, hbind, rfl⟩
      · exact .inl hb
      · refine (List.mem_append.mp hb).imp_right fun hb => ?_
        rw [List.mem_singleton.mp hb]
        exact client_of_bind hbind
    | update old e =>
      obtain ⟨-, -, -, -, c, hbind, rfl⟩ := update_eq_ok_iff.mp hchange
      obtain ⟨d, hd, rfl⟩ := List.mem_map.mp hb
      split_ifs
      · exact .inr (client_of_bind hbind)
      · exact .inl hd
    | unregister name =>
      obtain ⟨-, -, -, rfl⟩ := unregister_eq_ok_iff.mp hchange
      exact .inl (List.mem_of_mem_filter hb)
  · exact .inl hb

theorem client_run {changes : List (Factory κ × Event)} {b : Binding κ}
    (hb : b ∈ (r.run changes).snapshot.bindings) :
    b ∈ r.snapshot.bindings ∨ ∃ asked ∈ changes, asked.1 b.definition = .ok b.client := by
  induction changes generalizing r with
  | nil => exact .inl hb
  | cons asked changes ih =>
    rcases ih hb with hb | ⟨later, hlater, hclient⟩
    · exact (client_after hb).imp_right fun hclient => ⟨asked, List.mem_cons_self, hclient⟩
    · exact .inr ⟨later, List.mem_cons_of_mem _ hlater, hclient⟩

/-- The bindings of a registry are those that the changes have left registered. -/
theorem enrolled_history (resolution : Resolution) (changes : List (Factory κ × Event)) :
    Enrolled resolution changes (history resolution changes).snapshot.bindings where
  entries := (coherent_empty resolution).entries_run changes
  prefixes := by
    rintro rfl b hb
    rw [(coherent_history .prefixed changes).databasePrefix b hb, resolution_history]
    rfl
  clients b hb := (client_run hb).resolve_left List.not_mem_nil

end Registry

/-- In every registry that changes lead to, just what the changes have left registered is bound, the
metastore that serves a name is found as by a scan of it, and there is none just where the scan
finds none. -/
theorem serving_history_iff_scan (resolution : Resolution) (changes : List (Factory κ × Event)) :
    Enrolled resolution changes (Registry.history resolution changes).snapshot.bindings ∧
      ∀ database result,
        (Registry.history resolution changes).snapshot.serving resolution database = result ↔
          Scan resolution (Registry.history resolution changes).snapshot.bindings database
            result := by
  refine ⟨Registry.enrolled_history resolution changes, fun database result => ?_⟩
  have h := Registry.coherent_history resolution changes
  have hscan := h.serving_eq_iff_scan database result
  rwa [Registry.resolution_history] at hscan

/-- Nobody claims a name by a prefix if no entry on the roster has a prefix that begins it. -/
theorem Enrolled.unclaimed {changes : List (Factory κ × Event)} {bindings : List (Binding κ)}
    (h : Enrolled .prefixed changes bindings) {database : String}
    (hnone : ∀ e ∈ roster .prefixed changes, ¬ (e.definition.databasePrefix ≠ "" ∧
      Text.AsciiCase.Begins e.definition.databasePrefix database)) :
    ∀ b ∈ bindings, ¬ Claims .prefixed b database := by
  intro b hb hclaims
  unfold Claims at hclaims
  rw [h.prefixes rfl b hb] at hclaims
  exact hnone b.entry (h.entries ▸ List.mem_map_of_mem hb) hclaims

def bee : Entry := ⟨0, { name := "bee", addresses := "a" }⟩

/-- A metastore with a prefix that the prefix of the first one begins. -/
def beehive : Entry :=
  ⟨1, { name := "beehive", addresses := "b", explicitPrefix := some "bee_hive_" }⟩

def queen : Entry := ⟨2, { name := "queen", role := .primary, addresses := "c" }⟩

/-- The two federated metastores, and one that wants the prefix of the first. -/
def beesChanges : List (Factory Unit × Event) :=
  [.register bee, .register beehive,
    .register ⟨2, { name := "wasp", addresses := "d", explicitPrefix := some "bee_" }⟩].map
      fun event => (fun _ => .ok (), event)

/-- The primary as well. -/
def queenChanges : List (Factory Unit × Event) :=
  beesChanges ++ [(fun _ => .ok (), .register queen)]

/-- A name is served by the metastore with the longest prefix, in any case. Without a prefix it is
the primary's, and nobody's as long as there is no primary. -/
theorem serving_history_iff_scan_bees :
    roster .prefixed beesChanges = [bee, beehive] ∧
      roster .prefixed queenChanges = [bee, beehive, queen] ∧
      ((Registry.history .prefixed beesChanges).snapshot.serving .prefixed "BEE_hive_logs").map
        Binding.entry = .ok beehive ∧
      ((Registry.history .prefixed beesChanges).snapshot.serving .prefixed "logs").map
        Binding.entry = .error (.noPrimary "logs") ∧
      ((Registry.history .prefixed queenChanges).snapshot.serving .prefixed "logs").map
        Binding.entry = .ok queen := by
  have hbees : roster .prefixed beesChanges = [bee, beehive] := by decide
  have hqueen : roster .prefixed queenChanges = [bee, beehive, queen] := by decide
  obtain ⟨henrolled, hscan⟩ := serving_history_iff_scan .prefixed beesChanges
  obtain ⟨hqueens, hserved⟩ := serving_history_iff_scan .prefixed queenChanges
  refine ⟨hbees, hqueen, ?_, ?_, ?_⟩
  · have hbegins : beehive.definition.databasePrefix ≠ "" ∧
        Text.AsciiCase.Begins beehive.definition.databasePrefix "BEE_hive_logs" := by decide
    obtain ⟨b, _, hbindings, hb, hrest⟩ := List.map_eq_cons_iff.mp (henrolled.entries.trans hbees)
    obtain ⟨c, _, rfl, hc, hnil⟩ := List.map_eq_cons_iff.mp hrest
    obtain rfl := List.map_eq_nil_iff.mp hnil
    have hleads := henrolled.prefixes rfl
    simp only [hbindings, List.forall_mem_cons, Binding.definition, hb, hc] at hleads
    have hclaims : Claims .prefixed c "BEE_hive_logs" := by
      unfold Claims
      rw [hleads.2.1]
      exact hbegins
    have hsizes : Snapshot.prefixSize b < Snapshot.prefixSize c := by
      unfold Snapshot.prefixSize
      rw [hleads.1, hleads.2.1]
      decide
    have howns : Owns .prefixed [b, c] "BEE_hive_logs" c :=
      ⟨[b], [], rfl, hclaims, List.forall_mem_singleton.mpr fun _ => hsizes, nofun⟩
    rw [(hscan _ (.ok c)).mpr (hbindings ▸ .owner howns), ← hc]
    rfl
  · have hfederated : ∀ e ∈ roster .prefixed beesChanges, e.definition.isPrimary = false := by
      decide
    rw [(hscan "logs" _).mpr (.none (henrolled.unclaimed (by decide)) fun b hb => ?_)]
    · rfl
    · exact hfederated b.entry (henrolled.entries ▸ List.mem_map_of_mem hb)
  · have hmem : queen ∈ roster .prefixed queenChanges := by simp [hqueen]
    rw [← hqueens.entries] at hmem
    obtain ⟨b, hb, hentry⟩ := List.mem_map.mp hmem
    have hprimary : b.isPrimary = true := by
      unfold Binding.isPrimary Binding.definition
      rw [hentry]
      rfl
    rw [(hserved "logs" (.ok b)).mpr (.primary (hqueens.unclaimed (by decide)) hb hprimary),
      ← hentry]
    rfl

end Routing

end MetastoreFederation
