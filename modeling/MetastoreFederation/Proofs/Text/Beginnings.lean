import Mathlib.Data.List.Basic
import MetastoreFederation.Text.AsciiCase

/-!
Beginnings of texts up to the case of ASCII letters. A change of case keeps the size of a text in
UTF-8, so a beginning may be cut off by size before it is compared, and two beginnings of one text
that have the same size differ in case only.
-/

set_option autoImplicit false
set_option relaxedAutoImplicit false

namespace MetastoreFederation.Text.AsciiCase

/-- As much of the name as `start` has bytes is equal to it, up to the case of ASCII letters. -/
def Begins (start name : String) : Prop :=
  ∃ head rest, name = head ++ rest ∧ head.utf8ByteSize = start.utf8ByteSize ∧
    same start head = true

private theorem utf8Size_of_toNat_lt {c : Char} (h : c.toNat < 128) : c.utf8Size = 1 := by
  rw [Char.utf8Size_eq_one_iff]
  have hle : c.val.toNat ≤ 127 := Nat.le_of_lt_succ h
  exact UInt32.le_iff_toNat_le.mpr hle

private theorem utf8Size_toLower (c : Char) : c.toLower.utf8Size = c.utf8Size := by
  unfold Char.toLower
  split_ifs with hupper
  · have hge : 65 ≤ c.val.toNat := UInt32.le_iff_toNat_le.mp hupper.1
    have hle : c.val.toNat ≤ 90 := UInt32.le_iff_toNat_le.mp hupper.2
    have hlower : (c.val + ('a'.val - 'A'.val)).toNat < 128 := by
      have hsum : (c.val + ('a'.val - 'A'.val)).toNat = (c.val.toNat + 32) % 2 ^ 32 :=
        UInt32.toNat_add ..
      omega
    have hupper' : c.toNat < 128 := by
      change c.val.toNat < 128
      omega
    rw [utf8Size_of_toNat_lt hupper']
    exact utf8Size_of_toNat_lt hlower
  · rfl

private theorem utf8Size_of_sameChar {c d : Char} (h : sameChar c d = true) :
    c.utf8Size = d.utf8Size := by
  have hlower : c.toLower = d.toLower := beq_iff_eq.mp h
  calc
    c.utf8Size = c.toLower.utf8Size := (utf8Size_toLower c).symm
    _ = d.toLower.utf8Size := by rw [hlower]
    _ = d.utf8Size := utf8Size_toLower d

private theorem utf8ByteSize_ofList_cons (c : Char) (s : List Char) :
    (String.ofList (c :: s)).utf8ByteSize = c.utf8Size + (String.ofList s).utf8ByteSize := by
  rw [String.ofList_cons, String.utf8ByteSize_append, String.utf8ByteSize_singleton]

private theorem utf8ByteSize_of_sameChars {s t : List Char} (h : sameChars s t = true) :
    (String.ofList s).utf8ByteSize = (String.ofList t).utf8ByteSize := by
  induction s generalizing t with
  | nil =>
    cases t with
    | nil => rfl
    | cons d t => exact absurd h (by simp [sameChars])
  | cons c s ih =>
    cases t with
    | nil => exact absurd h (by simp [sameChars])
    | cons d t =>
      rw [sameChars, Bool.and_eq_true] at h
      rw [utf8ByteSize_ofList_cons, utf8ByteSize_ofList_cons, utf8Size_of_sameChar h.1, ih h.2]

/-- Texts that differ in case only have the same size. -/
theorem utf8ByteSize_eq_of_same {s t : String} (h : same s t = true) :
    s.utf8ByteSize = t.utf8ByteSize := by
  have hsize := utf8ByteSize_of_sameChars h
  rwa [String.ofList_toList, String.ofList_toList] at hsize

/-- Texts differ in case only where they are equal in small letters. -/
private theorem sameChars_iff_map_eq (s t : List Char) :
    sameChars s t = true ↔ s.map Char.toLower = t.map Char.toLower := by
  induction s generalizing t with
  | nil => cases t <;> simp [sameChars]
  | cons c s ih =>
    cases t with
    | nil => simp [sameChars]
    | cons d t => simp [sameChars, sameChar, ih]

theorem same_iff_map_eq (s t : String) :
    same s t = true ↔ s.toList.map Char.toLower = t.toList.map Char.toLower :=
  sameChars_iff_map_eq s.toList t.toList

theorem same_symm {s t : String} (h : same s t = true) : same t s = true := by
  rw [same_iff_map_eq] at h ⊢
  exact h.symm

theorem same_trans {r s t : String} (h : same r s = true) (h' : same s t = true) :
    same r t = true := by
  rw [same_iff_map_eq] at h h' ⊢
  exact h.trans h'

theorem dropStart?_of_sameChars {start head : List Char} (rest : List Char)
    (h : sameChars start head = true) : dropStart? start (head ++ rest) = some rest := by
  induction start generalizing head with
  | nil =>
    cases head with
    | nil => rfl
    | cons d head => exact absurd h (by simp [sameChars])
  | cons c start ih =>
    cases head with
    | nil => exact absurd h (by simp [sameChars])
    | cons d head =>
      rw [sameChars, Bool.and_eq_true] at h
      rw [List.cons_append, dropStart?, if_pos h.1]
      exact ih h.2

/-- A start can be dropped from just the names that begin with it. -/
theorem isSome_dropStartOf?_iff (start name : String) :
    (dropStartOf? start name).isSome = true ↔ Begins start name := by
  unfold dropStartOf?
  rw [Option.isSome_map, Option.isSome_iff_exists]
  constructor
  · rintro ⟨rest, hdrop⟩
    obtain ⟨head, hname, hsame⟩ := exists_of_dropStart?_eq_some hdrop
    have hsame' : same start (String.ofList head) = true := by
      unfold same
      rwa [String.toList_ofList]
    refine ⟨String.ofList head, String.ofList rest, ?_, ?_, hsame'⟩
    · rw [← String.ofList_append, ← hname, String.ofList_toList]
    · exact (utf8ByteSize_eq_of_same hsame').symm
  · rintro ⟨head, rest, rfl, -, hsame⟩
    refine ⟨rest.toList, ?_⟩
    rw [String.toList_append]
    exact dropStart?_of_sameChars _ hsame

instance (start name : String) : Decidable (Begins start name) :=
  decidable_of_iff _ (isSome_dropStartOf?_iff start name)

theorem Begins.of_same {start other name : String} (h : Begins start name)
    (hsame : same start other = true) : Begins other name := by
  obtain ⟨head, rest, hname, hsize, hhead⟩ := h
  refine ⟨head, rest, hname, ?_, same_trans (same_symm hsame) hhead⟩
  rw [hsize, utf8ByteSize_eq_of_same hsame]

private theorem eq_of_append_eq {s t rest rest' : String} (h : s ++ rest = t ++ rest')
    (hsize : s.utf8ByteSize = t.utf8ByteSize) : s = t := by
  have hlists : s.toList ++ rest.toList = t.toList ++ rest'.toList := by
    rw [← String.toList_append, ← String.toList_append, h]
  -- One of the two begins the other, and what is left of the other has no bytes.
  have hempty : ∀ {u v : String} {middle : List Char}, u.toList = v.toList ++ middle →
      u.utf8ByteSize = v.utf8ByteSize → u = v := by
    intro u v middle hsplit hsizes
    have hu : u = v ++ String.ofList middle := by
      rw [← String.toList_inj, String.toList_append, String.toList_ofList, hsplit]
    have hmiddle : (String.ofList middle).utf8ByteSize = 0 := by
      have hsum := congrArg String.utf8ByteSize hu
      rw [String.utf8ByteSize_append] at hsum
      omega
    rw [hu, String.utf8ByteSize_eq_zero_iff.mp hmiddle, String.append_empty]
  rcases List.append_eq_append_iff.mp hlists with ⟨middle, ht, -⟩ | ⟨middle, hs, -⟩
  · exact (hempty ht hsize.symm).symm
  · exact hempty hs hsize

/-- Two beginnings of one name that have the same size differ in case only. -/
theorem Begins.same_of_size_eq {start other name : String} (h : Begins start name)
    (h' : Begins other name) (hsize : start.utf8ByteSize = other.utf8ByteSize) :
    same start other = true := by
  obtain ⟨head, rest, rfl, hhead, hsame⟩ := h
  obtain ⟨head', rest', hname, hhead', hsame'⟩ := h'
  have hheads : head = head' := by
    apply eq_of_append_eq hname
    rw [hhead, hhead', hsize]
  subst hheads
  exact same_trans hsame (same_symm hsame')

private theorem isSome_dropStart?_iff (start s : List Char) :
    (dropStart? start s).isSome = true ↔ start.map Char.toLower <+: s.map Char.toLower := by
  induction start generalizing s with
  | nil => simp [dropStart?]
  | cons c start ih =>
    cases s with
    | nil => simp [dropStart?]
    | cons d s =>
      rw [dropStart?, List.map_cons, List.map_cons, List.cons_prefix_cons, ← ih]
      by_cases hc : c.toLower = d.toLower
      · simp [sameChar, hc]
      · simp [sameChar, hc]

/-- What begins a name is a prefix of it when both are in small letters. -/
theorem begins_iff_isPrefix (start name : String) :
    Begins start name ↔
      start.toList.map Char.toLower <+: name.toList.map Char.toLower := by
  rw [← isSome_dropStartOf?_iff, dropStartOf?, Option.isSome_map]
  exact isSome_dropStart?_iff _ _

/-- Of two beginnings of one name, one begins the other. -/
theorem Begins.begins_or_begins {start other name : String} (h : Begins start name)
    (h' : Begins other name) : Begins start other ∨ Begins other start := by
  rw [begins_iff_isPrefix] at h h' ⊢
  rw [begins_iff_isPrefix]
  exact List.prefix_or_prefix_of_prefix h h'

@[simp] theorem dropStartOf?_append (start name : String) :
    dropStartOf? start (start ++ name) = some name := by
  simp [dropStartOf?]

theorem begins_append (start name : String) : Begins start (start ++ name) := by
  rw [← isSome_dropStartOf?_iff, dropStartOf?_append]
  rfl

/-- With its start put back, a name changes in case at most. -/
theorem same_append_of_dropStartOf? {start name rest : String}
    (h : dropStartOf? start name = some rest) : same (start ++ rest) name = true := by
  obtain ⟨rest, hdrop, rfl⟩ := Option.map_eq_some_iff.mp h
  obtain ⟨head, hname, hsame⟩ := exists_of_dropStart?_eq_some hdrop
  rw [sameChars_iff_map_eq] at hsame
  rw [same_iff_map_eq, String.toList_append, String.toList_ofList, hname, List.map_append,
    List.map_append, hsame]

end MetastoreFederation.Text.AsciiCase
