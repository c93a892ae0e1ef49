import MetastoreFederation.Proofs.Routing.Effects
import MetastoreFederation.Proofs.Routing.Ownership

/-!
Registration of several entries, one after another. It succeeds where each definition can join and
any two that differ are compatible, in whatever order they come, and then just these are added.
-/

set_option autoImplicit false
set_option relaxedAutoImplicit false

namespace MetastoreFederation.Routing.Registry

open Metastore

variable {κ : Type} {r s : Registry κ} {create : Factory κ} {e : Entry} {entries : List Entry}

/-- Registers entries one after another, up to the first that is refused. -/
def registerAll (create : Factory κ) (r : Registry κ) (entries : List Entry) :
    Except RegistrationError (Registry κ) :=
  entries.foldlM (register create) r

theorem registerAll_cons_eq_ok_iff :
    registerAll create r (e :: entries) = .ok s ↔
      ∃ next, r.register create e = .ok next ∧ registerAll create next entries = .ok s := by
  unfold registerAll
  rw [List.foldlM_cons, bind_eq_ok_iff]

/-- What comes of the registration of definitions: they are there besides what was there before,
which keeps its place. -/
structure Extended (r : Registry κ) (definitions : List Definition) (s : Registry κ) : Prop where
  coherent : s.Coherent
  resolution : s.resolution = r.resolution
  definitions : ∀ d, d ∈ s.snapshot.definitions ↔ d ∈ r.snapshot.definitions ∨ d ∈ definitions
  kept : r.snapshot.bindings <+: s.snapshot.bindings

theorem definitions_publish_append (bindings : List (Binding κ)) (b : Binding κ) :
    (r.publish (bindings ++ [b])).snapshot.definitions =
      bindings.map Binding.definition ++ [b.definition] := by
  change (bindings ++ [b]).map Binding.definition = _
  rw [List.map_append, List.map_singleton]

theorem extended_register (h : r.Coherent) (hregister : r.register create e = .ok s) :
    r.Extended [e.definition] s := by
  have hstep := register_step hregister
  refine ⟨h.step hstep, hstep.resolution_eq, ?_, ?_⟩
  · intro d
    rw [List.mem_singleton]
    rcases register_eq_ok_iff.mp hregister with ⟨b, hfind, hsame, rfl⟩ | ⟨-, -, b, hbind, rfl⟩
    · have hb : e.definition ∈ s.snapshot.definitions := by
        rw [← hsame]
        exact List.mem_map_of_mem (h.find?_eq_some_iff.mp hfind).1
      constructor
      · exact Or.inl
      · rintro (hd | rfl)
        · exact hd
        · exact hb
    · rw [definitions_publish_append, List.mem_append, List.mem_singleton, (bind_eq_ok hbind).1]
      rfl
  · rcases register_eq_ok_iff.mp hregister with ⟨-, -, -, rfl⟩ | ⟨-, -, b, -, rfl⟩
    · exact List.prefix_rfl
    · exact List.prefix_append ..

theorem extended_registerAll (h : r.Coherent) (hall : registerAll create r entries = .ok s) :
    r.Extended (entries.map Entry.definition) s := by
  induction entries generalizing r with
  | nil =>
    cases hall
    exact ⟨h, rfl, by simp, List.prefix_rfl⟩
  | cons e entries ih =>
    obtain ⟨next, hregister, hall⟩ := registerAll_cons_eq_ok_iff.mp hall
    have hnext := extended_register h hregister
    have hrest := ih hnext.coherent hall
    refine ⟨hrest.coherent, hrest.resolution.trans hnext.resolution, ?_,
      hnext.kept.trans hrest.kept⟩
    intro d
    rw [hrest.definitions, hnext.definitions, List.mem_singleton, List.map_cons, List.mem_cons,
      or_assoc]

/-- The definition is there, or it can join. -/
def Admits (create : Factory κ) (r : Registry κ) (d : Definition) : Prop :=
  d ∈ r.snapshot.definitions ∨ Joins create r.resolution r.snapshot.definitions d

/-- The definitions are equal or can stand side by side. -/
def Agree (resolution : Resolution) (d e : Definition) : Prop :=
  d = e ∨ Compatible resolution d e

theorem Coherent.agree (h : r.Coherent) {d d' : Definition} (hd : d ∈ r.snapshot.definitions)
    (hd' : d' ∈ r.snapshot.definitions) : Agree r.resolution d d' := by
  obtain ⟨b, hb, rfl⟩ := List.mem_map.mp hd
  obtain ⟨c, hc, rfl⟩ := List.mem_map.mp hd'
  by_cases hbc : b = c
  · exact .inl (congrArg Binding.definition hbc)
  · exact .inr (h.compatible_of_ne hb hc hbc)

/-- After a definition joined, another one is admitted where it was before and agrees with the
first. -/
theorem admits_of_extended (h : r.Coherent) {d d' : Definition} (hs : r.Extended [d] s)
    (hd : Admits create r d) :
    Admits create s d' ↔ Admits create r d' ∧ Agree r.resolution d d' := by
  have hmem : ∀ c, c ∈ s.snapshot.definitions ↔ c ∈ r.snapshot.definitions ∨ c = d := by
    intro c
    rw [hs.definitions, List.mem_singleton]
  constructor
  · rintro (hin | hjoins)
    · rcases (hmem d').mp hin with hin | rfl
      · refine ⟨.inl hin, ?_⟩
        rcases hd with hd | hd
        · exact h.agree hd hin
        · exact .inr (hd.compatible d' hin)
      · exact ⟨hd, .inl rfl⟩
    · have hcompatible := hjoins.compatible
      rw [hs.resolution] at hcompatible
      refine ⟨.inr ⟨hjoins.problems, ?_, hjoins.bindable⟩, .inr ?_⟩
      · exact fun other hother => hcompatible other ((hmem other).mpr (.inl hother))
      · exact (hcompatible d ((hmem d).mpr (.inr rfl))).symm
  · rintro ⟨hin | hjoins, hagree⟩
    · exact .inl ((hmem d').mpr (.inl hin))
    · rcases hagree with rfl | hcompatible
      · exact .inl ((hmem d).mpr (.inr rfl))
      · refine .inr ⟨hjoins.problems, ?_, hjoins.bindable⟩
        rw [hs.resolution]
        intro other hother
        rcases (hmem other).mp hother with hother | rfl
        · exact hjoins.compatible other hother
        · exact hcompatible.symm

/-- All entries are registered just where each definition is admitted and any two agree. -/
theorem exists_registerAll_iff (h : r.Coherent) :
    (∃ s, registerAll create r entries = .ok s) ↔
      (∀ d ∈ entries.map Entry.definition, Admits create r d) ∧
        (entries.map Entry.definition).Pairwise (Agree r.resolution) := by
  induction entries generalizing r with
  | nil => exact ⟨fun _ => ⟨nofun, .nil⟩, fun _ => ⟨r, rfl⟩⟩
  | cons e entries ih =>
    have hfirst : (∃ next, r.register create e = .ok next) ↔ Admits create r e.definition :=
      h.exists_register_iff
    have hrest : ∀ {next}, r.register create e = .ok next →
        ((∃ s, registerAll create next entries = .ok s) ↔
          (∀ d ∈ entries.map Entry.definition,
            Admits create r d ∧ Agree r.resolution e.definition d) ∧
          (entries.map Entry.definition).Pairwise (Agree r.resolution)) := by
      intro next hregister
      have hnext := extended_register h hregister
      have hadmitted := hfirst.mp ⟨next, hregister⟩
      rw [ih hnext.coherent, hnext.resolution]
      simp only [admits_of_extended h hnext hadmitted]
    rw [List.map_cons, List.forall_mem_cons, List.pairwise_cons]
    constructor
    · rintro ⟨s, hall⟩
      obtain ⟨next, hregister, hall⟩ := registerAll_cons_eq_ok_iff.mp hall
      obtain ⟨heach, hpairs⟩ := (hrest hregister).mp ⟨s, hall⟩
      exact ⟨⟨hfirst.mp ⟨next, hregister⟩, fun d hd => (heach d hd).1⟩,
        fun d hd => (heach d hd).2, hpairs⟩
    · rintro ⟨⟨hadmitted, hothers⟩, hagree, hpairs⟩
      obtain ⟨next, hregister⟩ := hfirst.mpr hadmitted
      have heach := fun d hd => And.intro (hothers d hd) (hagree d hd)
      obtain ⟨s, hall⟩ := (hrest hregister).mpr ⟨heach, hpairs⟩
      exact ⟨s, registerAll_cons_eq_ok_iff.mpr ⟨next, hregister, hall⟩⟩

/-- Whether all entries can be registered is not a matter of their order. -/
theorem exists_registerAll_of_perm (h : r.Coherent) {entries' : List Entry}
    (hperm : (entries'.map Entry.definition).Perm (entries.map Entry.definition))
    (hall : ∃ s, registerAll create r entries = .ok s) :
    ∃ s, registerAll create r entries' = .ok s := by
  obtain ⟨hadmits, hagree⟩ := (exists_registerAll_iff h).mp hall
  have hsymm : ∀ {d d' : Definition}, Agree r.resolution d d' → Agree r.resolution d' d := by
    rintro d d' (rfl | hcompatible)
    · exact .inl rfl
    · exact .inr hcompatible.symm
  apply (exists_registerAll_iff h).mpr
  refine ⟨fun d hd => hadmits d (hperm.mem_iff.mp hd), ?_⟩
  exact (hperm.pairwise_iff hsymm).mpr hagree

end MetastoreFederation.Routing.Registry
