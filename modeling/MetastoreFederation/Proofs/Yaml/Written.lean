import MetastoreFederation.Proofs.Document.Records
import MetastoreFederation.Yaml.Node.Reading
import MetastoreFederation.Yaml.Printer

/-!
Trees of written data. Each datum is written as one node, and values are read from that node as they
are in the datum: a text is never taken for nothing, since it is written in quotes wherever it could
be. That the text of a document is read as this tree is a matter of the text alone.
-/

set_option autoImplicit false
set_option relaxedAutoImplicit false

namespace MetastoreFederation.Yaml

open Document

namespace Plain

section Digits

variable {s : List Char} {n : Nat}

theorem digit?_of_isDigit {c : Char} (h : c.isDigit = true) :
    digit? 10 c = some (c.toNat - '0'.toNat) := by
  have hbound : c.toNat ≤ 57 := by
    unfold Char.isDigit at h
    exact UInt32.le_iff_toNat_le.mp (decide_eq_true_iff.mp (Bool.and_eq_true_iff.mp h).2)
  have hzero : '0'.toNat = 48 := rfl
  unfold digit?
  dsimp only
  rw [if_pos h, if_pos (by omega)]

theorem foldlM_digits (hdigits : ∀ c ∈ s, c.isDigit = true) (n : Nat) :
    s.foldlM (fun n c => (digit? 10 c).map (10 * n + ·)) n = some (Nat.ofDigitChars 10 s n) := by
  induction s generalizing n with
  | nil => rw [List.foldlM_nil, Nat.ofDigitChars_nil]; rfl
  | cons c s ih =>
    obtain ⟨hc, hdigits⟩ := List.forall_mem_cons.mp hdigits
    rw [List.foldlM_cons, digit?_of_isDigit hc, Nat.ofDigitChars_cons]
    exact ih hdigits _

/-- Digits that have no mark of a base and no zero in front. -/
theorem magnitude?_of_digits (hdigits : ∀ c ∈ s, c.isDigit = true)
    (hpadded : isPaddedNumber s = false) : magnitude? s = digits? 10 s := by
  have hmark : ∀ c : Char, c.isDigit = false → ∀ rest, s ≠ '0' :: c :: rest := by
    rintro c hc rest rfl
    exact absurd (hdigits c (List.mem_cons_of_mem _ List.mem_cons_self)) (by rw [hc]; decide)
  unfold magnitude?
  split
  · exact absurd rfl (hmark 'x' (by decide) _)
  · exact absurd rfl (hmark 'o' (by decide) _)
  · exact absurd rfl (hmark 'b' (by decide) _)
  · rw [hpadded]
    rfl

theorem isDigit_of_mem_toDigits {c : Char} (hc : c ∈ Nat.toDigits 10 n) : c.isDigit = true :=
  Nat.isDigit_of_mem_toDigits (by decide) (by decide) hc

theorem head?_toDigits_ne_zero (hn : 0 < n) : (Nat.toDigits 10 n).head? ≠ some '0' := by
  induction n using Nat.strongRecOn with
  | ind n ih =>
    by_cases hsmall : n < 10
    · have hdigit : ∀ d < 10, 0 < d → [d.digitChar].head? ≠ some '0' := by decide
      rw [Nat.toDigits_of_lt_base hsmall]
      exact hdigit n hsmall hn
    · have hlarge : 10 ≤ n := Nat.le_of_not_lt hsmall
      rw [Nat.toDigits_of_base_le (by decide) hlarge,
        List.head?_append_of_ne_nil _ Nat.toDigits_ne_nil]
      exact ih (n / 10) (Nat.div_lt_self hn (by decide)) (Nat.div_pos hlarge (by decide))

theorem isPaddedNumber_toDigits (n : Nat) : isPaddedNumber (Nat.toDigits 10 n) = false := by
  have hsign : ∀ c : Char, c.isDigit = false → ∀ rest, Nat.toDigits 10 n ≠ c :: rest := by
    intro c hc rest heq
    have hdigit := isDigit_of_mem_toDigits (heq ▸ List.mem_cons_self : c ∈ Nat.toDigits 10 n)
    rw [hc] at hdigit
    cases hdigit
  unfold isPaddedNumber
  split
  · next rest heq => exact absurd heq (hsign '-' (by decide) _)
  · next rest heq => exact absurd heq (hsign '+' (by decide) _)
  · rcases Nat.eq_zero_or_pos n with rfl | hn
    · rfl
    · have hhead := beq_false_of_ne (head?_toDigits_ne_zero hn)
      simp [hhead]

/-- A number is read from its digits. -/
theorem natural?_toString (n : Nat) : natural? (toString n) = some n := by
  have hlist : (toString n).toList = Nat.toDigits 10 n := Nat.toList_repr
  have hdigits : ∀ c ∈ Nat.toDigits 10 n, c.isDigit = true := fun c => isDigit_of_mem_toDigits
  have hread : magnitude? (Nat.toDigits 10 n) = some n := by
    rw [magnitude?_of_digits hdigits (isPaddedNumber_toDigits n)]
    unfold digits?
    rw [if_neg (by simp), foldlM_digits hdigits, Nat.ofDigitChars_ten_toDigits]
  unfold natural?
  rw [hlist]
  split
  · next rest heq =>
    have hplus := hdigits '+' (heq ▸ List.mem_cons_self)
    exact absurd hplus (by decide)
  · exact hread

end Digits

end Plain

/-- The style in which a scalar of the form is read. -/
def Printer.Form.style : Printer.Form → ScalarStyle
  | .plain => .plain
  | .single | .double => .quoted
  | .literal => .literal

namespace Node

mutual

/-- The node as which a datum is written. -/
def ofDatum : Datum → Node
  | .null => .scalar "null" .plain none
  | .flag true => .scalar "true" .plain none
  | .flag false => .scalar "false" .plain none
  | .integer n => .scalar (toString n) .plain none
  | .decimal m places => .scalar (Printer.decimalText m places) .plain none
  | .text s => .scalar s (Printer.formOf s).style none
  | .items xs => .sequence (ofMembers xs) none
  | .fields es => .mapping (ofEntries es) none

/-- The nodes of the members of a sequence. -/
def ofMembers : List Datum → List Node
  | [] => []
  | x :: xs => ofDatum x :: ofMembers xs

/-- The nodes of the names and values of a record. -/
def ofEntries : List (String × Datum) → List (Node × Node)
  | [] => []
  | (name, x) :: es =>
    (.scalar name (Printer.formOf name).style none, ofDatum x) :: ofEntries es

end

theorem ofMembers_eq_map (xs : List Datum) : ofMembers xs = xs.map ofDatum := by
  induction xs with
  | nil => rfl
  | cons x xs ih =>
    rw [ofMembers, ih]
    rfl

theorem ofEntries_eq_map (es : List (String × Datum)) :
    ofEntries es = es.map fun e => (ofDatum (.text e.1), ofDatum e.2) := by
  induction es with
  | nil => rfl
  | cons e es ih =>
    rw [ofEntries, ih]
    rfl

section Reading

variable {α : Type}

@[simp] theorem items_ofDatum (xs : List Datum) :
    Source.items (ofDatum (.items xs)) = .ok (xs.map ofDatum) :=
  congrArg Except.ok (ofMembers_eq_map xs)

@[simp] theorem entries_ofDatum (es : List (String × Datum)) :
    Source.entries (ofDatum (.fields es)) =
      .ok (es.map fun e => (ofDatum (.text e.1), ofDatum e.2)) :=
  congrArg Except.ok (ofEntries_eq_map es)

theorem natural_ofDatum {n : Nat} (hn : n < UInt64.size) :
    Source.natural (ofDatum (.integer n)) = .ok n := by
  have hfits : Plain.fits 64 n = true := by
    unfold Plain.fits
    rw [if_neg (by omega)]
    exact decide_eq_true (by exact_mod_cast hn)
  have hread : ((typedText? "int" (ofDatum (.integer n))).bind Plain.natural?).filter
      (fun n : Nat => Plain.fits 64 n) = some n := by
    change (Plain.natural? (toString (n : Int))).filter _ = _
    rw [show toString (n : Int) = toString n from rfl, Plain.natural?_toString,
      Option.filter_some, if_pos hfits]
  change readNatural _ = _
  unfold readNatural
  rw [hread]

/-- A text that is written without quotes does not stand for nothing. -/
theorem isAbsent_ofDatum_text (s : String) : Source.isAbsent (ofDatum (.text s)) = .ok false := by
  cases hform : Printer.formOf s with
  | plain =>
    have hmeaning : Plain.meaning s = .text := by
      unfold Printer.formOf at hform
      dsimp only at hform
      split_ifs at hform with _ _ hplain
      rw [Bool.and_eq_true, Bool.not_eq_true'] at hplain
      unfold Printer.hasOtherMeaning at hplain
      rw [Bool.or_eq_false_iff, bne_eq_false_iff_eq] at hplain
      exact hplain.1.1
    have hsomething : (s.isEmpty || Plain.isNothing s) = false := by
      rw [Bool.eq_false_iff]
      intro hnothing
      unfold Plain.meaning at hmeaning
      rw [if_pos hnothing] at hmeaning
      cases hmeaning
    have hnode : ofDatum (.text s) = .scalar s .plain none := by
      rw [ofDatum, hform]
      rfl
    rw [hnode]
    exact congrArg Except.ok hsomething
  | single | double | literal =>
    have hnode : ofDatum (.text s) = .scalar s (Printer.formOf s).style none := by rw [ofDatum]
    rw [hnode, hform]
    rfl

/-- Members that are read one by one are read as a sequence. -/
theorem readList_ofDatum {read : Node → Except DataError α} {write : α → Datum} {xs : List α}
    (hread : ∀ x ∈ xs, read (ofDatum (write x)) = .ok x) :
    readList read (ofDatum (.items (xs.map write))) = .ok xs := by
  unfold readList
  rw [items_ofDatum, List.map_map]
  change ((xs.map fun x => ofDatum (write x)).mapM read) = _
  exact mapM_map_eq_ok hread

end Reading

end Node

/-- The text of a document is read as the tree of what was written. -/
def Printer.Reproduced (d : Datum) : Prop := Tree.ofText (Printer.render d) = ⟨.ofDatum d, true⟩

theorem readDocument_of_reproduced {α : Type} {read : Node → Except DataError α} {d : Datum} {a : α}
    (htext : Printer.Reproduced d) (hread : read (.ofDatum d) = .ok a) :
    readDocument read (Printer.render d) = .ok a := by
  unfold readDocument
  rw [htext]
  dsimp only
  rw [hread]
  rfl

end MetastoreFederation.Yaml
