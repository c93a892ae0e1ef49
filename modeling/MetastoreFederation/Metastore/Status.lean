import MetastoreFederation.Metastore.Definition

/-!
Health of metastores. An entry is a definition with an identity of its own; the board holds, for
each identity, the status last recorded. A definition that replaces another gets a new identity, so
it starts with an unknown status.
-/

set_option autoImplicit false
set_option relaxedAutoImplicit false

namespace MetastoreFederation.Metastore

/-- What the last probe of a metastore found. -/
inductive Status
  | unknown
  | available
  | unavailable
deriving DecidableEq, Repr, Inhabited

namespace Status

def name : Status → String
  | unknown => "UNKNOWN"
  | available => "AVAILABLE"
  | unavailable => "UNAVAILABLE"

/-- The statuses with their names. -/
def names : List (String × Status) :=
  [unknown, available, unavailable].map fun s => (s.name, s)

end Status

/-- A definition under the identity by which its status is kept. -/
structure Entry where
  id : Nat
  definition : Definition
deriving DecidableEq

def Entry.name (e : Entry) : String := e.definition.name

/-- The recorded statuses, the latest first. -/
structure StatusBoard where
  records : List (Nat × Status)

namespace StatusBoard

def empty : StatusBoard := ⟨[]⟩

instance : Inhabited StatusBoard := ⟨empty⟩

/-- The status of an entry, unknown before the first record. -/
def status (b : StatusBoard) (id : Nat) : Status :=
  (b.records.lookup id).getD .unknown

/-- Some status was recorded for the entry. -/
def checked (b : StatusBoard) (id : Nat) : Bool :=
  (b.records.lookup id).isSome

/-- Records a status. -/
def record (b : StatusBoard) (id : Nat) (s : Status) : StatusBoard :=
  ⟨(id, s) :: b.records.filter fun r => r.1 != id⟩

@[simp] theorem status_empty (id : Nat) : empty.status id = .unknown := rfl

private theorem lookup_filter_ne {i j : Nat} (h : j ≠ i) (l : List (Nat × Status)) :
    (l.filter fun r => r.1 != i).lookup j = l.lookup j := by
  induction l with
  | nil => rfl
  | cons r l ih =>
    obtain ⟨k, s⟩ := r
    by_cases hk : k = i
    · subst hk
      have hj : (j == k) = false := by simpa using h
      simp [List.lookup_cons, hj, ih]
    · have hb : (k != i) = true := by simpa using hk
      rw [List.filter_cons_of_pos (by simpa using hk)]
      simp [List.lookup_cons, ih]

@[simp] theorem status_record (b : StatusBoard) (i j : Nat) (s : Status) :
    (b.record i s).status j = if j = i then s else b.status j := by
  by_cases h : j = i
  · simp [h, record, status]
  · have hj : (j == i) = false := by simpa using h
    simp [h, record, status, List.lookup_cons, hj, lookup_filter_ne h]

@[simp] theorem checked_record (b : StatusBoard) (i j : Nat) (s : Status) :
    (b.record i s).checked j = (j == i || b.checked j) := by
  by_cases h : j = i
  · simp [h, record, checked]
  · have hj : (j == i) = false := by simpa using h
    simp [record, checked, List.lookup_cons, hj, lookup_filter_ne h]

end StatusBoard

/-- A definition with its status at one moment. -/
structure View where
  definition : Definition
  status : Status
  checked : Bool
deriving DecidableEq

/-- The entry as the board sees it. -/
def StatusBoard.view (b : StatusBoard) (e : Entry) : View :=
  ⟨e.definition, b.status e.id, b.checked e.id⟩

end MetastoreFederation.Metastore
