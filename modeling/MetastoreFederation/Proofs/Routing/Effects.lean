import MetastoreFederation.Proofs.Routing.History

/-!
What exactly the operations of a registry do, and when they succeed. A definition can be bound where
a client is made for it and its expressions are such; it can join a registry where it fits to what
is there.
-/

set_option autoImplicit false
set_option relaxedAutoImplicit false

namespace MetastoreFederation.Routing

open Metastore

variable {κ : Type}

/-- All that is needed to bind a definition is there. -/
structure Bindable (create : Factory κ) (d : Definition) : Prop where
  client : ∃ client, create d = .ok client
  gate : ∃ gate, Gate.make? d.policy d.whitelist = some gate
  filters : ∃ filters, d.tableRules.mapM TableRule.filter? = some filters

/-- A definition fits to others that are registered, and it can be bound. -/
structure Joins (create : Factory κ) (resolution : Resolution) (others : List Definition)
    (d : Definition) : Prop where
  problems : d.problems = []
  compatible : ∀ other ∈ others, Compatible resolution d other
  bindable : Bindable create d

section Deciding

variable {create : Factory κ} {resolution : Resolution} {others : List Definition} {d : Definition}

instance : Decidable (Bindable create d) :=
  decidable_of_iff ((create d).isOk = true ∧ (Gate.make? d.policy d.whitelist).isSome = true ∧
      (d.tableRules.mapM TableRule.filter?).isSome = true) <| by
    have hclient : (create d).isOk = true ↔ ∃ client, create d = .ok client := by
      cases create d <;> simp [Except.isOk, Except.toBool]
    rw [hclient, Option.isSome_iff_exists, Option.isSome_iff_exists]
    exact ⟨fun h => ⟨h.1, h.2.1, h.2.2⟩, fun h => ⟨h.client, h.gate, h.filters⟩⟩

instance : Decidable (Joins create resolution others d) :=
  decidable_of_iff (d.problems = [] ∧ (∀ other ∈ others, Compatible resolution d other) ∧
      Bindable create d)
    ⟨fun h => ⟨h.1, h.2.1, h.2.2⟩, fun h => ⟨h.problems, h.compatible, h.bindable⟩⟩

end Deciding

theorem make_eq_ok_iff {resolution : Resolution} {id : Nat} {e : Entry} {client : κ}
    {b : Binding κ} :
    Binding.make resolution id e client = .ok b ↔
      ∃ gate filters, Gate.make? e.definition.policy e.definition.whitelist = some gate ∧
        e.definition.tableRules.mapM TableRule.filter? = some filters ∧
        b = ⟨id, e, client, Binding.prefixUnder resolution e.definition, gate, filters⟩ := by
  unfold Binding.make
  dsimp only
  split
  · next gate filters hgate hfilters =>
    constructor
    · intro h
      cases h
      exact ⟨gate, filters, hgate, hfilters, rfl⟩
    · rintro ⟨gate', filters', hgate', hfilters', rfl⟩
      rw [hgate] at hgate'
      rw [hfilters] at hfilters'
      cases hgate'
      cases hfilters'
      rfl
  · next hnone =>
    constructor
    · intro h
      cases h
    · rintro ⟨gate, filters, hgate, hfilters, -⟩
      exact absurd hfilters (hnone gate filters hgate)

namespace Registry

variable {r s : Registry κ} {create : Factory κ} {e : Entry}

theorem bind_binding_eq_ok_iff {b : Binding κ} :
    r.bind create e = .ok b ↔
      ∃ client, create e.definition = .ok client ∧
        Binding.make r.resolution r.nextId e client = .ok b := by
  unfold bind
  rw [bind_eq_ok_iff]
  constructor
  · rintro ⟨client, hclient, hmake⟩
    refine ⟨client, ?_, hmake⟩
    cases hcreate : create e.definition with
    | error cause => simp [hcreate, Except.mapError] at hclient
    | ok made =>
      simp only [hcreate, Except.mapError, Except.ok.injEq] at hclient
      rw [hclient]
  · rintro ⟨client, hcreate, hmake⟩
    refine ⟨client, ?_, hmake⟩
    rw [hcreate]
    rfl

/-- A binding is for its entry, and it has the next identity. -/
theorem entry_of_bind {b : Binding κ} (h : r.bind create e = .ok b) :
    b.entry = e ∧ b.id = r.nextId := by
  obtain ⟨client, -, hmake⟩ := bind_binding_eq_ok_iff.mp h
  obtain ⟨gate, filters, -, -, rfl⟩ := make_eq_ok_iff.mp hmake
  exact ⟨rfl, rfl⟩

theorem exists_bind_iff : (∃ b, r.bind create e = .ok b) ↔ Bindable create e.definition := by
  constructor
  · rintro ⟨b, hbind⟩
    obtain ⟨client, hclient, hmake⟩ := bind_binding_eq_ok_iff.mp hbind
    obtain ⟨gate, filters, hgate, hfilters, -⟩ := make_eq_ok_iff.mp hmake
    exact ⟨⟨client, hclient⟩, ⟨gate, hgate⟩, ⟨filters, hfilters⟩⟩
  · rintro ⟨⟨client, hclient⟩, ⟨gate, hgate⟩, ⟨filters, hfilters⟩⟩
    exact ⟨_, bind_binding_eq_ok_iff.mpr ⟨client, hclient,
      make_eq_ok_iff.mpr ⟨gate, filters, hgate, hfilters, rfl⟩⟩⟩

theorem register_eq_ok_iff :
    r.register create e = .ok s ↔
      (∃ b, r.snapshot.find? e.name = some b ∧ b.definition = e.definition ∧ s = r) ∨
      r.snapshot.find? e.name = none ∧
        checkCompatible r.resolution r.snapshot.definitions e.definition = .ok () ∧
        ∃ b, r.bind create e = .ok b ∧ s = r.publish (r.snapshot.bindings ++ [b]) := by
  unfold register
  cases hfind : r.snapshot.find? e.name with
  | some b =>
    dsimp only
    split_ifs with hsame
    · simp [hsame, eq_comm]
    · simp [hsame]
  | none =>
    dsimp only
    rw [bind_eq_ok_iff]
    constructor
    · rintro ⟨_, hcheck, hrest⟩
      obtain ⟨b, hbind, hpublish⟩ := bind_eq_ok_iff.mp hrest
      cases hpublish
      exact .inr ⟨rfl, hcheck, b, hbind, rfl⟩
    · rintro (⟨b, hb, -⟩ | ⟨-, hcheck, b, hbind, rfl⟩)
      · cases hb
      · exact ⟨(), hcheck, bind_eq_ok_iff.mpr ⟨b, hbind, rfl⟩⟩

theorem update_eq_ok_iff {old : String} :
    r.update create old e = .ok s ↔
      ∃ replaced, r.snapshot.find? old = some replaced ∧
        replaced.definition.role = e.definition.role ∧
        checkCompatible r.resolution (r.snapshot.definitions.filter fun d => d.name != old)
          e.definition = .ok () ∧
        ∃ b, r.bind create e = .ok b ∧
          s = r.publish (r.snapshot.bindings.map fun c => if c.name = old then b else c) := by
  unfold update
  cases hfind : r.snapshot.find? old with
  | none => simp
  | some replaced =>
    dsimp only
    split_ifs with hrole
    · simp [hrole]
    · rw [not_not] at hrole
      rw [bind_eq_ok_iff]
      constructor
      · rintro ⟨_, hcheck, hrest⟩
        obtain ⟨b, hbind, hpublish⟩ := bind_eq_ok_iff.mp hrest
        cases hpublish
        exact ⟨replaced, rfl, hrole, hcheck, b, hbind, rfl⟩
      · rintro ⟨_, -, -, hcheck, b, hbind, rfl⟩
        exact ⟨(), hcheck, bind_eq_ok_iff.mpr ⟨b, hbind, rfl⟩⟩

theorem unregister_eq_ok_iff {name : String} :
    r.unregister name = .ok s ↔
      ∃ b, r.snapshot.find? name = some b ∧ b.isPrimary = false ∧
        s = r.publish (r.snapshot.bindings.filter fun c => c.name != name) := by
  unfold unregister
  cases hfind : r.snapshot.find? name with
  | none => simp
  | some b =>
    dsimp only
    cases hprimary : b.isPrimary with
    | true => simp [hprimary]
    | false =>
      constructor
      · intro h
        cases h
        exact ⟨b, rfl, hprimary, rfl⟩
      · rintro ⟨_, -, -, rfl⟩
        rfl

theorem find?_eq_none_iff {name : String} :
    r.snapshot.find? name = none ↔ ∀ b ∈ r.snapshot.bindings, b.name ≠ name := by
  unfold Snapshot.find?
  rw [List.find?_eq_none]
  simp only [beq_iff_eq, ne_eq]

namespace Coherent

/-- An entry is registered where its definition is there already or can join those that are. -/
theorem exists_register_iff (h : r.Coherent) :
    (∃ s, r.register create e = .ok s) ↔
      e.definition ∈ r.snapshot.definitions ∨
        Joins create r.resolution r.snapshot.definitions e.definition := by
  constructor
  · rintro ⟨s, hregister⟩
    rcases register_eq_ok_iff.mp hregister with ⟨b, hfind, hsame, -⟩ | ⟨-, hcheck, b, hbind, -⟩
    · left
      rw [← hsame]
      exact List.mem_map_of_mem (h.find?_eq_some_iff.mp hfind).1
    · right
      obtain ⟨hproblems, hcompatible⟩ := (checkCompatible_eq_ok_iff ..).mp hcheck
      exact ⟨hproblems, hcompatible, exists_bind_iff.mp ⟨b, hbind⟩⟩
  · rintro (hmem | hjoins)
    · exact ⟨r, h.register_of_mem create hmem⟩
    · obtain ⟨b, hbind⟩ := exists_bind_iff.mpr hjoins.bindable
      exact ⟨_, h.register_of_compatible hjoins.problems hjoins.compatible hbind⟩

end Coherent

end Registry

namespace Table

variable {t u : Table κ} {create : Factory κ} {e : Entry}

/-- A table takes a change over just where its registry does. -/
theorem notify_eq_ok_iff {event : Event} :
    t.notify create event = .ok u ↔
      ∃ r, t.registry.change create event = .ok r ∧ u = { t with registry := r } := by
  cases event <;>
  · unfold notify
    dsimp only [Registry.change]
    rw [bind_eq_ok_iff]
    simp only [pure, Except.pure, Except.ok.injEq, eq_comm]

theorem coherent_notify {event : Event} (h : t.registry.Coherent)
    (hnotify : t.notify create event = .ok u) : u.registry.Coherent := by
  obtain ⟨r, hchange, rfl⟩ := notify_eq_ok_iff.mp hnotify
  exact h.step (Registry.change_step hchange)

theorem resolution_notify {event : Event} (hnotify : t.notify create event = .ok u) :
    u.resolution = t.resolution := by
  obtain ⟨r, hchange, rfl⟩ := notify_eq_ok_iff.mp hnotify
  exact (Registry.change_step hchange).resolution_eq

theorem created_notify {event : Event} (hnotify : t.notify create event = .ok u) :
    u.created = t.created := by
  obtain ⟨r, -, rfl⟩ := notify_eq_ok_iff.mp hnotify
  rfl

/-- The table with other bindings. -/
def publish (t : Table κ) (bindings : List (Binding κ)) : Table κ :=
  { t with registry := t.registry.publish bindings }

@[simp] theorem bindings_publish (t : Table κ) (bindings : List (Binding κ)) :
    (t.publish bindings).bindings = bindings := rfl

theorem of_notify_register (h : t.notify create (.register e) = .ok u) :
    (∃ b, t.registry.snapshot.find? e.name = some b ∧ b.definition = e.definition ∧ u = t) ∨
      t.registry.snapshot.find? e.name = none ∧
        ∃ b, t.registry.bind create e = .ok b ∧ u = t.publish (t.bindings ++ [b]) := by
  obtain ⟨r, hchange, rfl⟩ := notify_eq_ok_iff.mp h
  rcases Registry.register_eq_ok_iff.mp hchange with
    ⟨b, hfind, hsame, rfl⟩ | ⟨hfree, -, b, hbind, rfl⟩
  · exact .inl ⟨b, hfind, hsame, rfl⟩
  · exact .inr ⟨hfree, b, hbind, rfl⟩

theorem of_notify_update {old : String} (h : t.notify create (.update old e) = .ok u) :
    ∃ b c, t.registry.snapshot.find? old = some b ∧
      checkCompatible t.resolution (t.registry.snapshot.definitions.filter fun d => d.name != old)
        e.definition = .ok () ∧
      t.registry.bind create e = .ok c ∧
      u = t.publish (t.bindings.map fun d => if d.name = old then c else d) := by
  obtain ⟨r, hchange, rfl⟩ := notify_eq_ok_iff.mp h
  obtain ⟨b, hfind, -, hcheck, c, hbind, rfl⟩ := Registry.update_eq_ok_iff.mp hchange
  exact ⟨b, c, hfind, hcheck, hbind, rfl⟩

theorem of_notify_unregister {name : String} (h : t.notify create (.unregister name) = .ok u) :
    ∃ b, t.registry.snapshot.find? name = some b ∧ b.isPrimary = false ∧
      u = t.publish (t.bindings.filter fun d => d.name != name) := by
  obtain ⟨r, hchange, rfl⟩ := notify_eq_ok_iff.mp h
  obtain ⟨b, hfind, hfederated, rfl⟩ := Registry.unregister_eq_ok_iff.mp hchange
  exact ⟨b, hfind, hfederated, rfl⟩

/-- What is registered is as it was before, or has the next identity. -/
theorem mem_or_id_of_notify {event : Event} {b : Binding κ}
    (h : t.notify create event = .ok u) (hb : b ∈ u.bindings) :
    b ∈ t.bindings ∨ b.id = t.registry.nextId := by
  cases event with
  | register e =>
    rcases of_notify_register h with ⟨-, -, -, rfl⟩ | ⟨-, c, hbind, rfl⟩
    · exact .inl hb
    · refine (List.mem_append.mp hb).imp_right fun hb => ?_
      rw [List.mem_singleton.mp hb]
      exact (Registry.entry_of_bind hbind).2
  | update old e =>
    obtain ⟨-, c, -, -, hbind, rfl⟩ := of_notify_update h
    obtain ⟨a, ha, rfl⟩ := List.mem_map.mp hb
    split_ifs
    · exact .inr (Registry.entry_of_bind hbind).2
    · exact .inl ha
  | unregister name =>
    obtain ⟨-, -, -, rfl⟩ := of_notify_unregister h
    exact .inl (List.mem_of_mem_filter hb)

/-- No change makes an identity available again. -/
theorem nextId_le_of_notify {event : Event} (h : t.notify create event = .ok u) :
    t.registry.nextId ≤ u.registry.nextId := by
  cases event with
  | register e =>
    rcases of_notify_register h with ⟨-, -, -, rfl⟩ | ⟨-, b, -, rfl⟩
    · exact Nat.le_refl _
    · exact Nat.le_succ _
  | update old e =>
    obtain ⟨-, -, -, -, -, rfl⟩ := of_notify_update h
    exact Nat.le_succ _
  | unregister name =>
    obtain ⟨-, -, -, rfl⟩ := of_notify_unregister h
    exact Nat.le_succ _

end Table

end MetastoreFederation.Routing
