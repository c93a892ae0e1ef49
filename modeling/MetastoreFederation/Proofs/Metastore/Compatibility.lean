import Mathlib.Data.List.Basic
import MetastoreFederation.Metastore.Compatibility

/-!
When definitions may stand side by side, said without an order between them, and that a candidate is
checked for just that.
-/

set_option autoImplicit false
set_option relaxedAutoImplicit false

namespace MetastoreFederation.Metastore

open Text

/-- Two definitions may stand side by side under a way of resolution. -/
structure Compatible (resolution : Resolution) (d e : Definition) : Prop where
  names : d.name ≠ e.name
  primaries : ¬ (d.isPrimary = true ∧ e.isPrimary = true)
  prefixes : resolution = .prefixed → d.databasePrefix ≠ e.databasePrefix
  databases : resolution = .manual → d.isPrimary = false → e.isPrimary = false →
    (d.listedDatabases.map Lowercase.lower).Disjoint (e.listedDatabases.map Lowercase.lower)

theorem Compatible.symm {resolution : Resolution} {d e : Definition}
    (h : Compatible resolution d e) : Compatible resolution e d where
  names := h.names.symm
  primaries hboth := h.primaries hboth.symm
  prefixes hresolution := (h.prefixes hresolution).symm
  databases hresolution he hd := List.disjoint_comm.mp (h.databases hresolution hd he)

theorem sharedDatabase?_eq_none_iff (other candidate : Definition) :
    sharedDatabase? other candidate = none ↔
      (candidate.listedDatabases.map Lowercase.lower).Disjoint
        (other.listedDatabases.map Lowercase.lower) := by
  unfold sharedDatabase?
  rw [List.find?_eq_none, List.disjoint_comm, List.disjoint_left, List.forall_mem_map]
  simp only [List.contains_iff_mem]

/-- The check against one other definition finds no cause just where the two are compatible. -/
theorem conflict?_eq_none_iff (resolution : Resolution) (candidate other : Definition) :
    conflict? resolution candidate other = none ↔ Compatible resolution candidate other := by
  unfold conflict?
  by_cases hname : other.name = candidate.name
  · rw [if_pos hname]
    exact ⟨fun h => (nomatch h), fun h => absurd hname.symm h.names⟩
  rw [if_neg hname]
  by_cases hprimaries : (candidate.isPrimary && other.isPrimary) = true
  · rw [if_pos hprimaries]
    rw [Bool.and_eq_true] at hprimaries
    exact ⟨fun h => (nomatch h), fun h => absurd hprimaries h.primaries⟩
  rw [if_neg hprimaries]
  rw [Bool.and_eq_true] at hprimaries
  cases resolution with
  | prefixed =>
    dsimp only
    split_ifs with hlead
    · exact ⟨fun h => (nomatch h), fun h => absurd hlead.symm (h.prefixes rfl)⟩
    · exact ⟨fun _ => ⟨Ne.symm hname, hprimaries, fun _ => Ne.symm hlead, nofun⟩, fun _ => rfl⟩
  | manual =>
    dsimp only
    split_ifs with hprimary
    · refine ⟨fun _ => ⟨Ne.symm hname, hprimaries, nofun, fun _ hd he => ?_⟩, fun _ => rfl⟩
      rw [hd, he] at hprimary
      exact absurd hprimary (by decide)
    · rw [Bool.or_eq_true, not_or, Bool.not_eq_true, Bool.not_eq_true] at hprimary
      rw [Option.map_eq_none_iff, sharedDatabase?_eq_none_iff]
      refine ⟨fun h => ⟨Ne.symm hname, hprimaries, nofun, fun _ _ _ => h⟩, fun h => ?_⟩
      exact h.databases rfl hprimary.1 hprimary.2

instance (resolution : Resolution) (d e : Definition) : Decidable (Compatible resolution d e) :=
  decidable_of_iff ((conflict? resolution d e).isNone = true)
    (Option.isNone_iff_eq_none.trans (conflict?_eq_none_iff resolution d e))

/-- A candidate can join the others just where it is sound and compatible with each of them. -/
theorem checkCompatible_eq_ok_iff (resolution : Resolution) (others : List Definition)
    (candidate : Definition) :
    checkCompatible resolution others candidate = .ok () ↔
      candidate.problems = [] ∧ ∀ other ∈ others, Compatible resolution candidate other := by
  have hconflicts : others.findSome? (conflict? resolution candidate) = none ↔
      ∀ other ∈ others, Compatible resolution candidate other := by
    rw [List.findSome?_eq_none_iff]
    simp only [conflict?_eq_none_iff]
  unfold checkCompatible
  split_ifs with hproblems
  · refine ⟨fun h => (nomatch h), fun h => ?_⟩
    rw [h.1] at hproblems
    exact absurd hproblems (by decide)
  · rw [← hconflicts]
    have hsound : candidate.problems = [] := by simpa using hproblems
    cases others.findSome? (conflict? resolution candidate) with
    | some cause => exact ⟨fun h => (nomatch h), fun h => (nomatch h.2)⟩
    | none => exact ⟨fun _ => ⟨hsound, rfl⟩, fun _ => rfl⟩

end MetastoreFederation.Metastore
