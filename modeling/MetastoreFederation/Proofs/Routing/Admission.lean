import Mathlib.Data.List.Basic
import MetastoreFederation.Proofs.Basic
import MetastoreFederation.Routing.Admission
import MetastoreFederation.Routing.Table

/-!
What is known of a name once a binding was found for it and access was allowed there.
-/

set_option autoImplicit false
set_option relaxedAutoImplicit false

namespace MetastoreFederation.Routing

open Metastore Request Pattern

variable {κ : Type}

/-- The local name that the rules of a binding are held against, by a name that leads to it. -/
def checkedName (b : Binding κ) (database : String) : String :=
  b.inbound (Qualifier.strip database)

/-- The rules of a binding admit access to a database, by its local name, and to a table in it. -/
structure Admitted (created : CreatedBoard) (b : Binding κ) (database : String)
    (table : Option String) (access : Access) : Prop where
  shown : b.showsDatabase database = true
  tableShown : ∀ name ∈ table, b.showsTable database name = true
  permitted : access = .write → created.mayWrite b database = true

theorem checkGate_eq_ok_iff (created : CreatedBoard) (b : Binding κ) (access : Access)
    (database : String) :
    checkGate created b access database = .ok () ↔
      (access = .write → created.mayWrite b database = true) := by
  unfold checkGate
  split_ifs with hdenied
  · refine ⟨fun h => ?_, fun h => absurd (h hdenied.1) (by simpa using hdenied.2)⟩
    split at h <;> cases h
  · refine ⟨fun _ hwrite => ?_, fun _ => rfl⟩
    by_contra hno
    exact hdenied ⟨hwrite, by simpa using hno⟩

theorem checkVisible_eq_ok_iff (b : Binding κ) (database : String) (table : Option String) :
    checkVisible b database table = .ok () ↔
      b.showsDatabase database = true ∧
        ∀ name ∈ table, b.showsTable database name = true := by
  unfold checkVisible
  cases hshown : b.showsDatabase database with
  | false => simp
  | true =>
    cases table with
    | none => simp
    | some name =>
      cases htable : b.showsTable database name <;> simp [htable]

/-- Access by a name is allowed just where the rules admit it to the checked name. -/
theorem checkAllowed_eq_ok_iff (created : CreatedBoard) (b : Binding κ) (database : String)
    (table : Option String) (access : Access) :
    checkAllowed created b database table access = .ok () ↔
      Admitted created b (checkedName b database) table access := by
  change (checkGate created b access (checkedName b database) >>= fun _ =>
    checkVisible b (checkedName b database) table) = .ok () ↔ _
  rw [bind_eq_ok_iff]
  constructor
  · rintro ⟨_, hgate, hvisible⟩
    obtain ⟨hshown, htable⟩ := (checkVisible_eq_ok_iff ..).mp hvisible
    exact ⟨hshown, htable, (checkGate_eq_ok_iff ..).mp hgate⟩
  · intro h
    exact ⟨(), (checkGate_eq_ok_iff ..).mpr h.permitted,
      (checkVisible_eq_ok_iff ..).mpr ⟨h.shown, h.tableShown⟩⟩

/-- A name leads to the binding that serves it, and nothing but the count of its use changes. -/
theorem Table.resolve_eq_ok_iff {t u : Table κ} {database : String} {b : Binding κ} :
    t.resolve database = .ok (b, u) ↔
      t.registry.snapshot.serving t.resolution (Qualifier.strip database) = .ok b ∧
        u = t.countUse b := by
  unfold Table.resolve
  rw [bind_eq_ok_iff]
  constructor
  · rintro ⟨served, hserved, h⟩
    cases h
    exact ⟨hserved, rfl⟩
  · rintro ⟨hserved, rfl⟩
    exact ⟨b, hserved, rfl⟩

end MetastoreFederation.Routing
