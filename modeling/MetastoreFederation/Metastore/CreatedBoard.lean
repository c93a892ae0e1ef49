import MetastoreFederation.Metastore.Binding

/-!
The databases created through bindings, by the identity of the binding. Whoever holds a binding sees
at once what was created through it elsewhere.
-/

set_option autoImplicit false
set_option relaxedAutoImplicit false

namespace MetastoreFederation.Metastore

/-- Created databases with the bindings they were created through, the latest first. -/
structure CreatedBoard where
  records : List (Nat × String)

namespace CreatedBoard

variable {κ : Type}

def empty : CreatedBoard := ⟨[]⟩

instance : Inhabited CreatedBoard := ⟨empty⟩

/-- The databases created through one binding. -/
def databases (c : CreatedBoard) (id : Nat) : List String :=
  (c.records.filter fun r => r.1 == id).map Prod.snd

/-- The database may be written through the binding. -/
def mayWrite (c : CreatedBoard) (b : Binding κ) (database : String) : Bool :=
  b.gate.mayWrite (c.databases b.id) database

/-- Takes note of a database that was created through the binding. -/
def note (c : CreatedBoard) (b : Binding κ) (database : String) : CreatedBoard :=
  ⟨(b.gate.newlyCreated (c.databases b.id) database).map (fun name => (b.id, name)) ++ c.records⟩

@[simp] theorem databases_empty (id : Nat) : empty.databases id = [] := rfl

theorem databases_note (c : CreatedBoard) (b : Binding κ) (database : String) :
    (c.note b database).databases b.id =
      b.gate.newlyCreated (c.databases b.id) database ++ c.databases b.id := by
  simp [note, databases, List.filter_append, List.filter_map, Function.comp_def]

theorem databases_note_of_ne {c : CreatedBoard} {b : Binding κ} {id : Nat} (h : id ≠ b.id)
    (database : String) : (c.note b database).databases id = c.databases id := by
  have hb : (b.id == id) = false := by simpa using Ne.symm h
  simp [note, databases, List.filter_append, List.filter_map, Function.comp_def, hb]

end CreatedBoard

end MetastoreFederation.Metastore
