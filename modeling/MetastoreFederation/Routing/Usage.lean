/-!
Counters of the requests that each metastore served, in the order in which the metastores were first
used. Requests that went to all of them have a counter of their own.
-/

set_option autoImplicit false
set_option relaxedAutoImplicit false

namespace MetastoreFederation.Routing

/-- How many requests were served under each name. -/
structure Usage where
  counts : List (String × Nat)
deriving Repr

namespace Usage

/-- The name of the counter for requests to all metastores. -/
def everyone : String := "all"

def empty : Usage := ⟨[]⟩

instance : Inhabited Usage := ⟨empty⟩

/-- The requests served under the name so far. -/
def count (u : Usage) (name : String) : Nat :=
  (u.counts.lookup name).getD 0

private def increment (name : String) : List (String × Nat) → List (String × Nat)
  | [] => [(name, 1)]
  | (other, n) :: rest =>
    if other = name then (other, n + 1) :: rest else (other, n) :: increment name rest

/-- Counts one more request under the name. -/
def record (u : Usage) (name : String) : Usage :=
  ⟨increment name u.counts⟩

private theorem lookup_increment (name other : String) (l : List (String × Nat)) :
    ((increment name l).lookup other).getD 0 =
      (l.lookup other).getD 0 + if other = name then 1 else 0 := by
  induction l with
  | nil =>
    by_cases h : other = name
    · simp [increment, h]
    · have hb : (other == name) = false := by simpa using h
      simp [increment, List.lookup_cons, h, hb]
  | cons e l ih =>
    obtain ⟨key, n⟩ := e
    by_cases hk : key = name
    · by_cases h : other = key
      · simp [increment, h, hk]
      · have hb : (other == key) = false := by simpa using h
        simp [increment, List.lookup_cons, hk ▸ h, hk, hk ▸ hb]
    · by_cases h : other = key
      · simp [increment, h, hk]
      · have hb : (other == key) = false := by simpa using h
        simpa [increment, List.lookup_cons, hk, hb] using ih

@[simp] theorem count_empty (name : String) : empty.count name = 0 := rfl

@[simp] theorem count_record (u : Usage) (name other : String) :
    (u.record name).count other = u.count other + if other = name then 1 else 0 :=
  lookup_increment name other u.counts

end Usage

end MetastoreFederation.Routing
