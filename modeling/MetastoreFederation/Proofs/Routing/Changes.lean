import Mathlib.Data.List.Basic
import MetastoreFederation.Administration.Event
import MetastoreFederation.Proofs.Metastore.Compatibility
import MetastoreFederation.Proofs.Routing.Admission

/-!
Changes of a registry. A change that is accepted does one of four things, and what it puts in is
compatible with all that stays.
-/

set_option autoImplicit false
set_option relaxedAutoImplicit false

namespace MetastoreFederation.Routing

open Metastore

variable {κ : Type}

/-- A binding can stand beside other definitions. -/
structure Fits (resolution : Resolution) (others : List Definition) (b : Binding κ) : Prop where
  problems : b.definition.problems = []
  compatible : ∀ other ∈ others, Compatible resolution b.definition other
  databasePrefix : b.databasePrefix = Binding.prefixUnder resolution b.definition

namespace Registry

/-- Makes a change in a registry. -/
def change (create : Factory κ) (r : Registry κ) : Event → Except RegistrationError (Registry κ)
  | .register e => r.register create e
  | .update old e => r.update create old e
  | .unregister name => r.unregister name

/-- The registry after a change was asked for; a refused one leaves it as it is. -/
def after (r : Registry κ) (asked : Factory κ × Event) : Registry κ :=
  match r.change asked.1 asked.2 with
  | .ok s => s
  | .error _ => r

/-- The registry after changes were asked for one after another. -/
def run (r : Registry κ) (changes : List (Factory κ × Event)) : Registry κ :=
  changes.foldl after r

/-- What an accepted change does to a registry. -/
inductive Step (r : Registry κ) : Registry κ → Prop
  | same : Step r r
  | added {b : Binding κ} (fits : Fits r.resolution r.snapshot.definitions b) :
      Step r (r.publish (r.snapshot.bindings ++ [b]))
  | replaced {old : String} {previous b : Binding κ} (found : r.snapshot.find? old = some previous)
      (role : previous.definition.role = b.definition.role)
      (fits : Fits r.resolution (r.snapshot.definitions.filter fun d => d.name != old) b) :
      Step r (r.publish (r.snapshot.bindings.map fun c => if c.name = old then b else c))
  | removed {name : String} {b : Binding κ} (found : r.snapshot.find? name = some b)
      (federated : b.isPrimary = false) :
      Step r (r.publish (r.snapshot.bindings.filter fun c => c.name != name))

/-- A binding is for the entry it was made of, with the prefix of its definition. -/
theorem bind_eq_ok {r : Registry κ} {create : Factory κ} {e : Entry} {b : Binding κ}
    (h : r.bind create e = .ok b) :
    b.definition = e.definition ∧
      b.databasePrefix = Binding.prefixUnder r.resolution b.definition := by
  obtain ⟨client, -, h⟩ := bind_eq_ok_iff.mp h
  unfold Binding.make at h
  dsimp only at h
  split at h
  · cases h
    exact ⟨rfl, rfl⟩
  · cases h

/-- What was checked and bound fits. -/
theorem fits_of_bind {r : Registry κ} {others : List Definition} {create : Factory κ} {e : Entry}
    {b : Binding κ} (hcheck : checkCompatible r.resolution others e.definition = .ok ())
    (hbind : r.bind create e = .ok b) : Fits r.resolution others b := by
  obtain ⟨hdefinition, hlead⟩ := bind_eq_ok hbind
  obtain ⟨hproblems, hcompatible⟩ := (checkCompatible_eq_ok_iff ..).mp hcheck
  rw [← hdefinition] at hproblems hcompatible
  exact ⟨hproblems, hcompatible, hlead⟩

theorem register_step {r s : Registry κ} {create : Factory κ} {e : Entry}
    (h : r.register create e = .ok s) : Step r s := by
  unfold register at h
  split at h
  · split_ifs at h
    cases h
    exact .same
  · obtain ⟨_, hcheck, h⟩ := bind_eq_ok_iff.mp h
    obtain ⟨b, hbind, h⟩ := bind_eq_ok_iff.mp h
    cases h
    exact .added (fits_of_bind hcheck hbind)

theorem update_step {r s : Registry κ} {create : Factory κ} {old : String} {e : Entry}
    (h : r.update create old e = .ok s) : Step r s := by
  unfold update at h
  split at h
  · cases h
  · next previous hfind =>
    split_ifs at h with hrole
    obtain ⟨_, hcheck, h⟩ := bind_eq_ok_iff.mp h
    obtain ⟨b, hbind, h⟩ := bind_eq_ok_iff.mp h
    cases h
    refine .replaced hfind ?_ (fits_of_bind hcheck hbind)
    rw [(bind_eq_ok hbind).1]
    exact not_not.mp hrole

theorem unregister_step {r s : Registry κ} {name : String} (h : r.unregister name = .ok s) :
    Step r s := by
  unfold unregister at h
  split at h
  · cases h
  · next b hfind =>
    split_ifs at h with hprimary
    cases h
    exact .removed hfind (Bool.not_eq_true _ ▸ hprimary)

theorem change_step {r s : Registry κ} {create : Factory κ} {event : Event}
    (h : r.change create event = .ok s) : Step r s := by
  cases event with
  | register e => exact register_step h
  | update old e => exact update_step h
  | unregister name => exact unregister_step h

/-- What is asked for leads to a step, if only to none. -/
theorem after_step (r : Registry κ) (asked : Factory κ × Event) : Step r (r.after asked) := by
  unfold after
  split
  · next s h => exact change_step h
  · exact .same

end Registry

end MetastoreFederation.Routing
