import MetastoreFederation.Proofs.Basic
import MetastoreFederation.Proofs.Routing.Changes

/-!
What holds of a registry through all changes. The registered definitions are compatible with one
another; from this follows what is distinct in a snapshot, and that a name finds one binding only.
-/

set_option autoImplicit false
set_option relaxedAutoImplicit false

namespace MetastoreFederation.Routing.Registry

open Metastore Text

variable {κ : Type}

/-- The registered bindings are compatible, and the snapshot is theirs. -/
structure Coherent (r : Registry κ) : Prop where
  built : r.snapshot = .build r.snapshot.bindings
  problems : ∀ b ∈ r.snapshot.bindings, b.definition.problems = []
  databasePrefix : ∀ b ∈ r.snapshot.bindings,
    b.databasePrefix = Binding.prefixUnder r.resolution b.definition
  compatible : r.snapshot.bindings.Pairwise fun b c =>
    Compatible r.resolution b.definition c.definition

theorem coherent_empty (resolution : Resolution) : (empty resolution : Registry κ).Coherent where
  built := by simp [empty, Snapshot.empty, Snapshot.build]
  problems _ hb := absurd hb List.not_mem_nil
  databasePrefix _ hb := absurd hb List.not_mem_nil
  compatible := .nil

namespace Coherent

variable {r s : Registry κ}

/-- The names of the registered metastores are distinct. -/
theorem nodup_names (h : r.Coherent) : (r.snapshot.bindings.map Binding.name).Nodup :=
  List.pairwise_map.mpr (h.compatible.imp Compatible.names)

/-- A name finds the one binding that is registered under it. -/
theorem find?_eq_some_iff (h : r.Coherent) {name : String} {b : Binding κ} :
    r.snapshot.find? name = some b ↔ b ∈ r.snapshot.bindings ∧ b.name = name :=
  find?_eq_some_iff_of_nodup h.nodup_names

theorem added (h : r.Coherent) {b : Binding κ}
    (hfits : Fits r.resolution r.snapshot.definitions b) :
    (r.publish (r.snapshot.bindings ++ [b])).Coherent where
  built := rfl
  problems := List.forall_mem_append.mpr ⟨h.problems, List.forall_mem_singleton.mpr hfits.problems⟩
  databasePrefix :=
    List.forall_mem_append.mpr
      ⟨h.databasePrefix, List.forall_mem_singleton.mpr hfits.databasePrefix⟩
  compatible := by
    refine List.pairwise_append.mpr ⟨h.compatible, List.pairwise_singleton .., fun c hc d hd => ?_⟩
    obtain rfl := List.mem_singleton.mp hd
    exact (hfits.compatible _ (List.mem_map_of_mem hc)).symm

theorem replaced (h : r.Coherent) {old : String} {b : Binding κ}
    (hfits : Fits r.resolution (r.snapshot.definitions.filter fun d => d.name != old) b) :
    (r.publish (r.snapshot.bindings.map fun c => if c.name = old then b else c)).Coherent := by
  have hnew : ∀ c ∈ r.snapshot.bindings, c.name ≠ old →
      Compatible r.resolution b.definition c.definition := by
    intro c hc hname
    refine hfits.compatible _ (List.mem_filter.mpr ⟨List.mem_map_of_mem hc, ?_⟩)
    exact bne_iff_ne.mpr hname
  refine ⟨rfl, List.forall_mem_map.mpr fun c hc => ?_, List.forall_mem_map.mpr fun c hc => ?_,
    List.pairwise_map.mpr (h.compatible.imp_of_mem fun {c d} hc hd hcd => ?_)⟩
  · split_ifs
    · exact hfits.problems
    · exact h.problems c hc
  · split_ifs
    · exact hfits.databasePrefix
    · exact h.databasePrefix c hc
  · split_ifs with hcold hdold hdold
    · -- The old name is that of one binding only, so the new one does not come in twice.
      exact absurd (hcold.trans hdold.symm) hcd.names
    · exact hnew d hd hdold
    · exact (hnew c hc hcold).symm
    · exact hcd

theorem removed (h : r.Coherent) (name : String) :
    (r.publish (r.snapshot.bindings.filter fun c => c.name != name)).Coherent where
  built := rfl
  problems b hb := h.problems b (List.mem_of_mem_filter hb)
  databasePrefix b hb := h.databasePrefix b (List.mem_of_mem_filter hb)
  compatible := h.compatible.filter _

theorem step (h : r.Coherent) (hstep : Step r s) : s.Coherent := by
  cases hstep with
  | same => exact h
  | added hfits => exact h.added hfits
  | replaced _ _ hfits => exact h.replaced hfits
  | removed => exact h.removed _

theorem run (h : r.Coherent) (changes : List (Factory κ × Event)) : (r.run changes).Coherent := by
  induction changes generalizing r with
  | nil => exact h
  | cons asked changes ih => exact ih (h.step (after_step r asked))

end Coherent

end MetastoreFederation.Routing.Registry
