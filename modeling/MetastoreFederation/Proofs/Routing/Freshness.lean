import MetastoreFederation.Proofs.Routing.Appearance
import MetastoreFederation.Proofs.Routing.Effects

/-!
Routing tables through all changes: no identity is used twice, each binding is as it was made of its
entry, and databases were noted as created only where this changes what may be written.
-/

set_option autoImplicit false
set_option relaxedAutoImplicit false

namespace MetastoreFederation

open Metastore

/-- The identity of the entry that comes with a change, if one does, is below. -/
def Event.bound : Event → Nat
  | .register e => e.id + 1
  | .update _ e => e.id + 1
  | .unregister _ => 0

namespace Routing

variable {κ : Type}

namespace Table

/-- What holds of a table through all changes, where the entries that were made so far have
identities below a bound. -/
structure Sound (bound : Nat) (t : Table κ) : Prop where
  coherent : t.registry.Coherent
  made : ∀ b ∈ t.bindings, Binding.make t.resolution b.id b.entry b.client = .ok b
  entries : ∀ b ∈ t.bindings, b.entry.id < bound
  fresh : ∀ b ∈ t.bindings, b.id < t.registry.nextId
  distinct : ∀ b ∈ t.bindings, ∀ c ∈ t.bindings, b.id = c.id → b = c
  recorded : ∀ r ∈ t.created.records, r.1 < t.registry.nextId
  created : ∀ b ∈ t.bindings, ∀ name ∈ t.created.databases b.id,
    b.gate.policy = .writeListedAndCreate ∧ b.gate.whitelist.any (fun x => x.isMatch name) = false

variable {t u : Table κ} {create : Factory κ} {bound : Nat} {event : Event}

theorem sound_empty (bound : Nat) (resolution : Resolution) :
    (empty resolution : Table κ).Sound bound where
  coherent := Registry.coherent_empty resolution
  made _ hb := absurd hb List.not_mem_nil
  entries _ hb := absurd hb List.not_mem_nil
  fresh _ hb := absurd hb List.not_mem_nil
  distinct _ hb := absurd hb List.not_mem_nil
  recorded _ hr := absurd hr List.not_mem_nil
  created _ hb := absurd hb List.not_mem_nil

theorem Sound.mono (h : t.Sound bound) {bound' : Nat} (hle : bound ≤ bound') : t.Sound bound' :=
  { h with entries := fun b hb => Nat.lt_of_lt_of_le (h.entries b hb) hle }

/-- The count of uses does not matter. -/
theorem Sound.of_eq (h : t.Sound bound) (hregistry : u.registry = t.registry)
    (hcreated : u.created = t.created) : u.Sound bound := by
  obtain ⟨registry, created, usage⟩ := u
  cases hregistry
  cases hcreated
  exact ⟨h.coherent, h.made, h.entries, h.fresh, h.distinct, h.recorded, h.created⟩

theorem Sound.gate (h : t.Sound bound) {b : Binding κ} (hb : b ∈ t.bindings) :
    Gate.make? b.definition.policy b.definition.whitelist = some b.gate := by
  obtain ⟨gate, filters, hgate, -, hmade⟩ := make_eq_ok_iff.mp (h.made b hb)
  rw [hmade]
  exact hgate

/-- No database was created through a binding with the next identity. -/
theorem Sound.databases_nextId (h : t.Sound bound) {id : Nat} (hid : t.registry.nextId ≤ id) :
    t.created.databases id = [] := by
  unfold CreatedBoard.databases
  rw [List.map_eq_nil_iff, List.filter_eq_nil_iff]
  intro r hr hsame
  have hlt := h.recorded r hr
  rw [beq_iff_eq.mp hsame] at hlt
  omega

/-- What is published is sound where it is made of the registered bindings and a new one. -/
theorem Sound.publish (h : t.Sound bound) {bindings : List (Binding κ)} (new : Option (Binding κ))
    (hcoherent : (t.publish bindings).registry.Coherent)
    (hmem : ∀ b ∈ bindings, b ∈ t.bindings ∨ b ∈ new)
    (hnew : ∀ b ∈ new, ∃ create e, t.registry.bind create e = .ok b ∧ e.id < bound) :
    (t.publish bindings).Sound bound := by
  have hnewId : ∀ b ∈ new, b.id = t.registry.nextId := by
    intro b hb
    obtain ⟨create, e, hbind, -⟩ := hnew b hb
    exact (Registry.entry_of_bind hbind).2
  refine ⟨hcoherent, ?_, ?_, ?_, ?_, ?_, ?_⟩
  · intro b hb
    rcases hmem b hb with hb | hb
    · exact h.made b hb
    · obtain ⟨create, e, hbind, -⟩ := hnew b hb
      obtain ⟨hentry, hid⟩ := Registry.entry_of_bind hbind
      obtain ⟨client, -, hmake⟩ := Registry.bind_binding_eq_ok_iff.mp hbind
      obtain ⟨gate, filters, hgate, hfilters, rfl⟩ := make_eq_ok_iff.mp hmake
      exact make_eq_ok_iff.mpr ⟨gate, filters, hgate, hfilters, rfl⟩
  · intro b hb
    rcases hmem b hb with hb | hb
    · exact h.entries b hb
    · obtain ⟨create, e, hbind, hbound⟩ := hnew b hb
      rwa [(Registry.entry_of_bind hbind).1]
  · intro b hb
    rcases hmem b hb with hb | hb
    · exact Nat.lt_succ_of_lt (h.fresh b hb)
    · rw [hnewId b hb]
      exact Nat.lt_succ_self _
  · intro b hb c hc hid
    -- The new binding got the next identity, which none of the others has.
    rcases hmem b hb with hb | hb <;> rcases hmem c hc with hc | hc
    · exact h.distinct b hb c hc hid
    · have hlt := h.fresh b hb
      rw [hid, hnewId c hc] at hlt
      exact absurd hlt (Nat.lt_irrefl _)
    · have hlt := h.fresh c hc
      rw [← hid, hnewId b hb] at hlt
      exact absurd hlt (Nat.lt_irrefl _)
    · exact Option.mem_unique hb hc
  · intro r hr
    exact Nat.lt_succ_of_lt (h.recorded r hr)
  · intro b hb name hname
    rcases hmem b hb with hb | hb
    · exact h.created b hb name hname
    · have hnone := h.databases_nextId (Nat.le_of_eq (hnewId b hb).symm)
      change name ∈ t.created.databases b.id at hname
      rw [hnone] at hname
      exact absurd hname List.not_mem_nil

theorem Sound.notify (h : t.Sound bound) (hbound : event.bound ≤ bound)
    (hnotify : t.notify create event = .ok u) : u.Sound bound := by
  have hcoherent := coherent_notify h.coherent hnotify
  cases event with
  | register e =>
    rcases of_notify_register hnotify with ⟨-, -, -, rfl⟩ | ⟨-, b, hbind, rfl⟩
    · exact h
    · refine h.publish (some b) hcoherent (fun c hc => ?_) fun c hc => ?_
      · rcases List.mem_append.mp hc with hc | hc
        · exact .inl hc
        · exact .inr (congrArg some (List.mem_singleton.mp hc).symm)
      · cases hc
        exact ⟨create, e, hbind, hbound⟩
  | update old e =>
    obtain ⟨-, b, -, -, hbind, rfl⟩ := of_notify_update hnotify
    refine h.publish (some b) hcoherent (fun c hc => ?_) fun c hc => ?_
    · obtain ⟨a, ha, rfl⟩ := List.mem_map.mp hc
      split_ifs
      · exact .inr rfl
      · exact .inl ha
    · cases hc
      exact ⟨create, e, hbind, hbound⟩
  | unregister name =>
    obtain ⟨-, -, -, rfl⟩ := of_notify_unregister hnotify
    exact h.publish none hcoherent (fun c hc => .inl (List.mem_of_mem_filter hc)) nofun

/-- Takes note of a database that was created at a registered metastore. -/
def noteCreated (t : Table κ) (name database : String) : Table κ :=
  match t.registry.snapshot.find? name with
  | some b => { t with created := t.created.note b database }
  | none => t

theorem Sound.noteCreated (h : t.Sound bound) (name database : String) :
    (t.noteCreated name database).Sound bound := by
  unfold Table.noteCreated
  cases hfind : t.registry.snapshot.find? name with
  | none => exact h
  | some b =>
    obtain ⟨hb, -⟩ := h.coherent.find?_eq_some_iff.mp hfind
    refine ⟨h.coherent, h.made, h.entries, h.fresh, h.distinct, ?_, ?_⟩
    · intro r hr
      rcases List.mem_append.mp hr with hr | hr
      · obtain ⟨_, -, rfl⟩ := List.mem_map.mp hr
        exact h.fresh b hb
      · exact h.recorded r hr
    · -- A database is only noted at a binding whose whitelist does not name it.
      intro c hc noted hnoted
      by_cases hid : c.id = b.id
      · obtain rfl := h.distinct c hc b hb hid
        change noted ∈ (t.created.note c database).databases c.id at hnoted
        rw [CreatedBoard.databases_note] at hnoted
        rcases List.mem_append.mp hnoted with hnoted | hnoted
        · unfold Gate.newlyCreated at hnoted
          split_ifs at hnoted with hlisted
          · rw [List.mem_singleton.mp hnoted]
            refine ⟨hlisted.1, ?_⟩
            have hunlisted := hlisted.2
            unfold Gate.isListed at hunlisted
            simp only [Bool.not_or, Bool.and_eq_true, Bool.not_eq_true'] at hunlisted
            exact hunlisted.1
          · exact absurd hnoted List.not_mem_nil
        · exact h.created c hc noted hnoted
      · change noted ∈ (t.created.note b database).databases c.id at hnoted
        rw [CreatedBoard.databases_note_of_ne hid] at hnoted
        exact h.created c hc noted hnoted

end Table

end Routing

end MetastoreFederation
