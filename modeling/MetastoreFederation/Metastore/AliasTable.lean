/-!
Tables of database aliases, in the order of the database names, one alias for each.
-/

set_option autoImplicit false
set_option relaxedAutoImplicit false

namespace MetastoreFederation.Metastore

/-- Backend database names with the names under which they are surfaced. -/
structure AliasTable where
  entries : List (String × String)
  ordered : entries.Pairwise fun a b => a.1 < b.1
deriving DecidableEq

namespace AliasTable

def empty : AliasTable := ⟨[], .nil⟩

instance : Inhabited AliasTable := ⟨empty⟩

def isEmpty (t : AliasTable) : Bool := t.entries.isEmpty

/-- Puts an entry in its place, instead of one with its name. -/
def insertEntry (name surfaced : String) : List (String × String) → List (String × String)
  | [] => [(name, surfaced)]
  | e :: rest =>
    if name < e.1 then (name, surfaced) :: e :: rest
    else if name = e.1 then (name, surfaced) :: rest
    else e :: insertEntry name surfaced rest

theorem mem_insertEntry {name surfaced : String} {entries : List (String × String)}
    {e : String × String} (h : e ∈ insertEntry name surfaced entries) :
    e = (name, surfaced) ∨ e ∈ entries := by
  induction entries with
  | nil => simpa [insertEntry] using h
  | cons d rest ih =>
    rw [insertEntry] at h
    split at h
    · simpa using h
    · split at h
      · rcases List.mem_cons.1 h with h | h <;> simp [h]
      · rcases List.mem_cons.1 h with h | h
        · simp [h]
        · rcases ih h with h | h <;> simp [h]

theorem ordered_insertEntry (name surfaced : String) {entries : List (String × String)}
    (h : entries.Pairwise fun a b => a.1 < b.1) :
    (insertEntry name surfaced entries).Pairwise fun a b => a.1 < b.1 := by
  induction entries with
  | nil => simp [insertEntry]
  | cons d rest ih =>
    obtain ⟨hd, hrest⟩ := List.pairwise_cons.1 h
    rw [insertEntry]
    split
    · next hlt =>
      refine List.pairwise_cons.2 ⟨fun e he => ?_, h⟩
      rcases List.mem_cons.1 he with rfl | he
      · exact hlt
      · exact String.lt_trans hlt (hd e he)
    · next hlt =>
      split
      · next heq => exact List.pairwise_cons.2 ⟨fun e he => heq ▸ hd e he, hrest⟩
      · next hne =>
        refine List.pairwise_cons.2 ⟨fun e he => ?_, ih hrest⟩
        rcases mem_insertEntry he with rfl | he
        · exact Decidable.byContradiction fun hn =>
            hne (String.le_antisymm (String.not_lt.1 hn) (String.not_lt.1 hlt))
        · exact hd e he

/-- Surfaces `name` as `surfaced`, instead of under its alias so far. -/
def insert (t : AliasTable) (name surfaced : String) : AliasTable :=
  ⟨insertEntry name surfaced t.entries, ordered_insertEntry name surfaced t.ordered⟩

/-- The table of entries given one after another. -/
def ofList (entries : List (String × String)) : AliasTable :=
  entries.foldl (fun t e => t.insert e.1 e.2) empty

/-- The alias of a database. -/
def find? (t : AliasTable) (name : String) : Option String :=
  t.entries.lookup name

end AliasTable

end MetastoreFederation.Metastore
