import MetastoreFederation.Proofs.Routing.Coherence

/-!
Registries from their beginning. Whatever was asked for, what is published is sound, a primary once
registered has a primary after it, and what is refused or is there already changes nothing.
-/

set_option autoImplicit false
set_option relaxedAutoImplicit false

namespace MetastoreFederation.Routing

open Metastore Text

variable {κ : Type}

/-- What is distinct in a snapshot, and that each definition in it is right on its own. The bindings
of a snapshot are those that are registered, and the primary is one of them. -/
structure Snapshot.Sound (resolution : Resolution) (s : Snapshot κ) : Prop where
  names : (s.bindings.map Binding.name).Nodup
  primary : s.primary = s.bindings.find? Binding.isPrimary
  primaries : (s.bindings.filter Binding.isPrimary).length ≤ 1
  problems : ∀ d ∈ s.definitions, d.problems = []
  prefixes : resolution = .prefixed → (s.bindings.map Binding.databasePrefix).Nodup
  databases : resolution = .manual →
    s.bindings.Pairwise fun b c => (ownedNames b).Disjoint (ownedNames c)

namespace Registry

/-- What is refused or is there already changes nothing, and what fits is put behind the rest. -/
structure Steady (r : Registry κ) : Prop where
  refused : ∀ create event cause, r.change create event = .error cause →
    (r.after (create, event)).snapshot = r.snapshot
  repeated : ∀ create e, e.definition ∈ r.snapshot.definitions →
    r.change create (.register e) = .ok r
  fitting : ∀ create e b, e.definition.problems = [] →
    (∀ d ∈ r.snapshot.definitions, Compatible r.resolution e.definition d) →
    r.bind create e = .ok b →
    r.change create (.register e) = .ok (r.publish (r.snapshot.bindings ++ [b]))

/-- The registry that starts with nothing, after changes were asked for. -/
def history (resolution : Resolution) (changes : List (Factory κ × Event)) : Registry κ :=
  (empty resolution).run changes

theorem Step.resolution_eq {r s : Registry κ} (h : Step r s) : s.resolution = r.resolution := by
  cases h <;> rfl

theorem resolution_run (r : Registry κ) (changes : List (Factory κ × Event)) :
    (r.run changes).resolution = r.resolution := by
  induction changes generalizing r with
  | nil => rfl
  | cons asked changes ih => exact (ih _).trans (after_step r asked).resolution_eq

theorem run_append (r : Registry κ) (changes later : List (Factory κ × Event)) :
    r.run (changes ++ later) = (r.run changes).run later :=
  List.foldl_append

namespace Coherent

variable {r s : Registry κ}

theorem primary_eq (h : r.Coherent) :
    r.snapshot.primary = r.snapshot.bindings.find? Binding.isPrimary := by
  rw [h.built]
  rfl

theorem length_primaries_le (h : r.Coherent) :
    (r.snapshot.bindings.filter Binding.isPrimary).length ≤ 1 := by
  have hpairs := (h.compatible.imp Compatible.primaries).filter Binding.isPrimary
  have hall : ∀ b ∈ r.snapshot.bindings.filter Binding.isPrimary, b.isPrimary = true :=
    fun b hb => (List.mem_filter.mp hb).2
  match hlist : r.snapshot.bindings.filter Binding.isPrimary with
  | [] => exact Nat.zero_le 1
  | [_] => exact Nat.le_refl 1
  | b :: c :: rest =>
    rw [hlist] at hpairs hall
    have hb := hall b List.mem_cons_self
    have hc := hall c (List.mem_cons_of_mem b List.mem_cons_self)
    exact absurd ⟨hb, hc⟩ (List.rel_of_pairwise_cons hpairs List.mem_cons_self)

theorem nodup_prefixes (h : r.Coherent) (hresolution : r.resolution = .prefixed) :
    (r.snapshot.bindings.map Binding.databasePrefix).Nodup := by
  refine List.pairwise_map.mpr (h.compatible.imp_of_mem fun {b c} hb hc hbc => ?_)
  rw [h.databasePrefix b hb, h.databasePrefix c hc, hresolution]
  exact hbc.prefixes hresolution

theorem disjoint_ownedNames (h : r.Coherent) (hresolution : r.resolution = .manual) :
    r.snapshot.bindings.Pairwise fun b c =>
      (Snapshot.ownedNames b).Disjoint (Snapshot.ownedNames c) := by
  refine h.compatible.imp fun {b c} hbc => ?_
  unfold Snapshot.ownedNames
  cases hb : b.isPrimary with
  | true => exact List.disjoint_nil_left _
  | false =>
    cases hc : c.isPrimary with
    | true => exact List.disjoint_nil_right _
    | false => exact hbc.databases hresolution hb hc

theorem sound (h : r.Coherent) : r.snapshot.Sound r.resolution where
  names := h.nodup_names
  primary := h.primary_eq
  primaries := h.length_primaries_le
  problems := List.forall_mem_map.mpr h.problems
  prefixes := h.nodup_prefixes
  databases := h.disjoint_ownedNames

theorem isSome_primary_iff (h : r.Coherent) :
    r.snapshot.primary.isSome = true ↔ ∃ b ∈ r.snapshot.bindings, b.isPrimary = true := by
  rw [h.primary_eq]
  exact List.find?_isSome

/-- The primary can be replaced by a primary only, and it cannot be removed. -/
theorem isSome_primary_step (h : r.Coherent) (hstep : Step r s)
    (hprimary : r.snapshot.primary.isSome = true) : s.snapshot.primary.isSome = true := by
  obtain ⟨b, hb, hb'⟩ := h.isSome_primary_iff.mp hprimary
  refine (h.step hstep).isSome_primary_iff.mpr ?_
  cases hstep with
  | same => exact ⟨b, hb, hb'⟩
  | added => exact ⟨b, List.mem_append_left _ hb, hb'⟩
  | @replaced old previous new hfound hrole =>
    refine ⟨_, List.mem_map_of_mem hb, ?_⟩
    split_ifs with hold
    · -- The primary itself is replaced, and what takes its place has its role.
      obtain rfl := Option.some.inj (hfound.symm.trans (h.find?_eq_some_iff.mpr ⟨hb, hold⟩))
      exact (congrArg Role.isPrimary hrole).symm.trans hb'
    · exact hb'
  | @removed name c hfound hfederated =>
    refine ⟨b, List.mem_filter.mpr ⟨hb, bne_iff_ne.mpr fun hname => ?_⟩, hb'⟩
    obtain rfl := Option.some.inj (hfound.symm.trans (h.find?_eq_some_iff.mpr ⟨hb, hname⟩))
    exact absurd (hb'.symm.trans hfederated) (by decide)

theorem isSome_primary_run (h : r.Coherent) (changes : List (Factory κ × Event))
    (hprimary : r.snapshot.primary.isSome = true) :
    (r.run changes).snapshot.primary.isSome = true := by
  induction changes generalizing r with
  | nil => exact hprimary
  | cons asked changes ih =>
    have hstep := after_step r asked
    exact ih (h.step hstep) (h.isSome_primary_step hstep hprimary)

/-- A definition that is there already is accepted without a change. -/
theorem register_of_mem (h : r.Coherent) (create : Factory κ) {e : Entry}
    (he : e.definition ∈ r.snapshot.definitions) : r.register create e = .ok r := by
  obtain ⟨b, hb, hdefinition⟩ := List.mem_map.mp he
  have hname : b.name = e.name := congrArg Definition.name hdefinition
  unfold register
  rw [h.find?_eq_some_iff.mpr ⟨hb, hname⟩]
  exact if_pos hdefinition

/-- What is compatible with all that is there, and can be bound, is put behind it. -/
theorem register_of_compatible (h : r.Coherent) {create : Factory κ} {e : Entry} {b : Binding κ}
    (hproblems : e.definition.problems = [])
    (hcompatible : ∀ d ∈ r.snapshot.definitions, Compatible r.resolution e.definition d)
    (hbind : r.bind create e = .ok b) :
    r.register create e = .ok (r.publish (r.snapshot.bindings ++ [b])) := by
  have hcheck := (checkCompatible_eq_ok_iff ..).mpr ⟨hproblems, hcompatible⟩
  have hfind : r.snapshot.find? e.name = none := by
    refine Option.eq_none_iff_forall_ne_some.mpr fun c hc => ?_
    obtain ⟨hmem, hname⟩ := h.find?_eq_some_iff.mp hc
    exact (hcompatible _ (List.mem_map_of_mem hmem)).names hname.symm
  unfold register
  rw [hfind, hcheck, hbind]
  rfl

theorem steady (h : r.Coherent) : r.Steady where
  refused create event cause hrefused := by
    unfold after
    rw [hrefused]
  repeated create e he := h.register_of_mem create he
  fitting create e b hproblems hcompatible hbind :=
    h.register_of_compatible hproblems hcompatible hbind

end Coherent

theorem coherent_history (resolution : Resolution) (changes : List (Factory κ × Event)) :
    (history resolution changes).Coherent :=
  (coherent_empty resolution).run changes

theorem resolution_history (resolution : Resolution) (changes : List (Factory κ × Event)) :
    (history resolution changes).resolution = resolution :=
  resolution_run (empty resolution) changes

/-- Whatever was asked for, what is published is sound and further changes are as they should be,
and from the first registration of a primary on there is one. -/
theorem history_sound (resolution : Resolution) (changes : List (Factory κ × Event)) :
    (history resolution changes).snapshot.Sound resolution ∧
      (history resolution changes).Steady ∧
      ∀ later, (history resolution changes).snapshot.primary.isSome = true →
        (history resolution (changes ++ later)).snapshot.primary.isSome = true := by
  have h := coherent_history resolution changes
  have hresolution : (history resolution changes).resolution = resolution :=
    resolution_run (empty resolution) changes
  refine ⟨?_, h.steady, fun later hprimary => ?_⟩
  · have hsound := h.sound
    rwa [hresolution] at hsound
  · unfold history
    rw [run_append]
    exact h.isSome_primary_run later hprimary

/-- A primary, a metastore that is renamed, and a third one that lists the database of the second in
another case. -/
def renamedChanges : List (Factory Unit × Event) :=
  [.register ⟨0, { name := "primary", role := .primary, addresses := "a" }⟩,
    .register ⟨1, { name := "waggle", addresses := "b", visibleDatabases := some ["Sales"] }⟩,
    .update "waggle" ⟨2, { name := "wasp", addresses := "b", visibleDatabases := some ["Sales"] }⟩,
    .register ⟨3, { name := "bee", addresses := "c", visibleDatabases := some ["SALES"] }⟩].map
      fun event => (fun _ => .ok (), event)

/-- The third metastore is refused, and so is the removal of the primary. -/
theorem history_sound_renamed :
    (history .manual renamedChanges).snapshot.bindings.map Binding.name = ["primary", "wasp"] ∧
      (history .manual renamedChanges).snapshot.Sound .manual ∧
      (history .manual renamedChanges).snapshot.primary.isSome = true ∧
      (history .manual
        (renamedChanges ++ [(fun _ => .ok (), .unregister "primary")])).snapshot.primary.isSome =
          true := by
  have hprimary : (history .manual renamedChanges).snapshot.primary.isSome = true := by decide
  obtain ⟨hsound, -, hlater⟩ := history_sound .manual renamedChanges
  exact ⟨by decide, hsound, hprimary, hlater _ hprimary⟩

end Registry

end MetastoreFederation.Routing
