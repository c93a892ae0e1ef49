/-!
Comparison of texts that takes each ASCII letter for its other case and no other letter.
-/

set_option autoImplicit false
set_option relaxedAutoImplicit false

namespace MetastoreFederation.Text.AsciiCase

/-- The characters are equal up to the case of an ASCII letter. -/
def sameChar (c d : Char) : Bool :=
  c.toLower == d.toLower

/-- The texts are equal up to the case of ASCII letters. -/
def sameChars : List Char → List Char → Bool
  | [], [] => true
  | c :: s, d :: t => sameChar c d && sameChars s t
  | _, _ => false

/-- What follows `start` in the text, when the text begins with it up to ASCII case. -/
def dropStart? : List Char → List Char → Option (List Char)
  | [], s => some s
  | _ :: _, [] => none
  | c :: start, d :: s => if sameChar c d then dropStart? start s else none

/-- The strings are equal up to the case of ASCII letters. -/
def same (s t : String) : Bool :=
  sameChars s.toList t.toList

/-- The rest of `name` past `start`, when `name` begins with it up to ASCII case. -/
def dropStartOf? (start name : String) : Option String :=
  (dropStart? start.toList name.toList).map String.ofList

@[simp] theorem sameChars_refl (s : List Char) : sameChars s s = true := by
  induction s with
  | nil => rfl
  | cons c s ih => simp [sameChars, sameChar, ih]

@[simp] theorem dropStart?_append (start s : List Char) :
    dropStart? start (start ++ s) = some s := by
  induction start with
  | nil => rfl
  | cons c start ih => simp [dropStart?, sameChar, ih]

theorem exists_of_dropStart?_eq_some {start s r : List Char} (h : dropStart? start s = some r) :
    ∃ head, s = head ++ r ∧ sameChars start head = true := by
  induction start generalizing s with
  | nil => exact ⟨[], by simpa [dropStart?] using h, rfl⟩
  | cons c start ih =>
    cases s with
    | nil => simp [dropStart?] at h
    | cons d s =>
      rw [dropStart?] at h
      split at h
      · next hc =>
        obtain ⟨head, rfl, hs⟩ := ih h
        exact ⟨d :: head, rfl, by simp [sameChars, hc, hs]⟩
      · simp at h

end MetastoreFederation.Text.AsciiCase
