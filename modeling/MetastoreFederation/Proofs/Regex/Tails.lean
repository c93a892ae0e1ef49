import Mathlib.Order.Nat
import MetastoreFederation.Proofs.Regex.Reading

/-!
Texts that start alike. Of two expressions that differ only in what follows a place, the parts
before it are read alike, as long as what follows starts with a closing parenthesis or is nothing at
all. Here this is said of what is left to read, and of how a reader in front of the one tail relates
to the same reader in front of the other.
-/

set_option autoImplicit false
set_option relaxedAutoImplicit false

namespace MetastoreFederation.Regex

/-- Two tails that may follow a text. The given one closes a group; the other does so too, or the
text ends there. -/
structure Tails where
  given : List Char
  other : List Char
  closes : given.head? = some ')'
  closes_or_ends : ∀ c ∈ other.head?, c = ')'
  /-- Both texts are read with the same regard to case. -/
  exact : Prop

namespace Tails

/-- The end of a group, and the end of the text. -/
def closing : Tails := ⟨[')'], [], rfl, nofun, True⟩

/-- The texts are the same but for their tails. -/
def Alike (T : Tails) (rest rest' : List Char) : Prop :=
  ∃ front, rest = front ++ T.given ∧ rest' = front ++ T.other

/-- The flags are the same, but for case where that is of no interest. -/
structure SameFlags (T : Tails) (f f' : Flags) : Prop where
  multiline : f'.multiline = f.multiline
  dotAll : f'.dotAll = f.dotAll
  crlf : f'.crlf = f.crlf
  spaced : f'.spaced = f.spaced
  ascii : f'.ascii = f.ascii
  caseless : T.exact → f'.caseless = f.caseless

/-- The inputs are the same but for the tails of what is left to read. -/
structure Twins (T : Tails) (s s' : Input) : Prop where
  rest : T.Alike s.rest s'.rest
  flags : T.SameFlags s.flags s'.flags
  names : s'.names = s.names

variable {T : Tails} {rest rest' : List Char} {s s' : Input} {c : Char}

theorem given_ne_nil (T : Tails) : T.given ≠ [] := fun h => by simpa [h] using T.closes

theorem given_pos (T : Tails) : 0 < T.given.length := List.length_pos_iff.mpr T.given_ne_nil

theorem tail_suffix {c : Char} {tail left whole : List Char} (h : left = c :: tail)
    (hleft : left <:+ whole) : tail <:+ whole := by
  subst h
  exact (List.suffix_cons c tail).trans hleft

theorem given_dropWhile (T : Tails) {p : Char → Bool} (hp : p ')' = false) :
    T.given.dropWhile p = T.given := by
  cases hgiven : T.given with
  | nil => rfl
  | cons c tail =>
    obtain rfl : c = ')' := by simpa [hgiven] using T.closes
    rw [List.dropWhile_cons_of_neg (by simp [hp])]

theorem other_dropWhile (T : Tails) {p : Char → Bool} (hp : p ')' = false) :
    T.other.dropWhile p = T.other := by
  cases hother : T.other with
  | nil => rfl
  | cons c tail =>
    obtain rfl : c = ')' := T.closes_or_ends c (by simp [hother])
    rw [List.dropWhile_cons_of_neg (by simp [hp])]

/-- A text with no closing parenthesis in it ends before the first one does. -/
theorem exists_eq_append {front tail used : List Char} (h : front ++ tail = used ++ rest)
    (htail : ∀ c ∈ tail.head?, c = ')') (hused : ')' ∉ used) :
    ∃ middle, front = used ++ middle ∧ rest = middle ++ tail := by
  rcases List.append_eq_append_iff.mp h with ⟨further, rfl, rfl⟩ | ⟨middle, rfl, rfl⟩
  · cases further with
    | nil => exact ⟨[], by simp, rfl⟩
    | cons c further =>
      obtain rfl := htail c rfl
      simp at hused
  · exact ⟨middle, rfl, rfl⟩

namespace Alike

theorem length (h : T.Alike rest rest') :
    rest.length + T.other.length = rest'.length + T.given.length := by
  obtain ⟨front, rfl, rfl⟩ := h
  simp only [List.length_append]
  omega

theorem drop {n : Nat} (h : T.Alike rest rest') (hin : T.given.length ≤ (rest.drop n).length) :
    T.Alike (rest.drop n) (rest'.drop n) := by
  obtain ⟨front, rfl, rfl⟩ := h
  have hn : n ≤ front.length := by
    have hpos := T.given_pos
    rw [List.length_drop, List.length_append] at hin
    omega
  exact ⟨front.drop n, List.drop_append_of_le_length hn, List.drop_append_of_le_length hn⟩

theorem tail (h : T.Alike (c :: rest) rest') (hin : T.given.length ≤ rest.length) :
    ∃ back, rest' = c :: back ∧ T.Alike rest back := by
  obtain ⟨front, hfront, rfl⟩ := h
  cases front with
  | nil =>
    rw [List.nil_append] at hfront
    rw [← hfront] at hin
    exact absurd hin (Nat.not_succ_le_self _)
  | cons d front =>
    obtain ⟨rfl, rfl⟩ := List.cons.inj hfront
    exact ⟨_, rfl, front, rfl, rfl⟩

theorem head? (h : T.Alike rest rest') (hlt : T.given.length < rest.length) :
    rest'.head? = rest.head? := by
  cases rest with
  | nil => exact absurd hlt (Nat.not_lt_zero _)
  | cons c rest =>
    obtain ⟨back, rfl, -⟩ := h.tail (Nat.le_of_lt_succ hlt)
    rfl

/-- What has no closing parenthesis in it stands in front of the tails. -/
theorem of_append (used : List Char) (h : T.Alike (used ++ rest) rest') (hused : ')' ∉ used) :
    ∃ back, rest' = used ++ back ∧ T.Alike rest back := by
  obtain ⟨front, hfront, rfl⟩ := h
  obtain ⟨middle, rfl, hrest⟩ := exists_eq_append hfront.symm
    (fun c hc => Option.some.inj (hc.symm.trans T.closes)) hused
  exact ⟨middle ++ T.other, List.append_assoc .., middle, hrest, rfl⟩

theorem of_append_other (used : List Char) (h : T.Alike rest (used ++ rest')) (hused : ')' ∉ used) :
    ∃ back, rest = used ++ back ∧ T.Alike back rest' := by
  obtain ⟨front, rfl, hfront⟩ := h
  obtain ⟨middle, rfl, hrest⟩ := exists_eq_append hfront.symm T.closes_or_ends hused
  exact ⟨middle ++ T.given, List.append_assoc .., middle, rfl, hrest⟩

theorem tail_of_ne (h : T.Alike (c :: rest) rest') (hc : c ≠ ')') :
    ∃ back, rest' = c :: back ∧ T.Alike rest back :=
  of_append [c] h (by simpa using hc.symm)

theorem ne_append (used : List Char) (h : T.Alike rest rest') (hused : ')' ∉ used)
    (hne : ∀ back, rest ≠ used ++ back) (back : List Char) : rest' ≠ used ++ back := by
  rintro rfl
  obtain ⟨front, hfront, -⟩ := h.of_append_other used hused
  exact hne front hfront

theorem ne_cons (h : T.Alike rest rest') (hc : c ≠ ')') (hne : ∀ back, rest ≠ c :: back)
    (back : List Char) : rest' ≠ c :: back :=
  h.ne_append [c] (by simpa using hc.symm) hne back

section While

variable {p : Char → Bool}

theorem head?_false (h : T.Alike rest rest') (hp : p ')' = false)
    (hhead : ∀ c ∈ rest.head?, p c = false) : ∀ c ∈ rest'.head?, p c = false := by
  obtain ⟨front, rfl, rfl⟩ := h
  cases front with
  | nil => exact fun c hc => T.closes_or_ends c hc ▸ hp
  | cons d front => exact hhead

theorem dropWhile (h : T.Alike rest rest') (hp : p ')' = false) :
    T.Alike (rest.dropWhile p) (rest'.dropWhile p) := by
  obtain ⟨front, rfl, rfl⟩ := h
  refine ⟨front.dropWhile p, ?_, ?_⟩
  · rw [List.dropWhile_append, T.given_dropWhile hp]
    split <;> simp_all
  · rw [List.dropWhile_append, T.other_dropWhile hp]
    split <;> simp_all

/-- What ends before the tails ends alike. -/
theorem while_of_lt (h : T.Alike rest rest')
    (hin : T.given.length < (rest.dropWhile p).length) :
    rest'.takeWhile p = rest.takeWhile p ∧
      T.Alike (rest.dropWhile p) (rest'.dropWhile p) := by
  obtain ⟨front, rfl, rfl⟩ := h
  induction front with
  | nil => exact absurd (List.dropWhile_suffix p).length_le (Nat.not_le_of_lt hin)
  | cons c front ih =>
    cases hc : p c with
    | true =>
      simp only [List.cons_append, List.dropWhile_cons_of_pos hc,
        List.takeWhile_cons_of_pos hc] at hin ⊢
      exact ⟨congrArg _ (ih hin).1, (ih hin).2⟩
    | false =>
      have hnot : ¬p c = true := by simp [hc]
      simp only [List.cons_append, List.dropWhile_cons_of_neg hnot,
        List.takeWhile_cons_of_neg hnot, true_and]
      exact ⟨c :: front, rfl, rfl⟩

end While

end Alike

end Tails

section Spaces

variable {T : Tails} {rest rest' : List Char} {s s' : Input}

theorem Input.skip_suffix (s : Input) (n : Nat) : (s.skip n).rest <:+ s.rest :=
  List.drop_suffix n s.rest

theorem Input.skipSpaced_suffix (fuel : Nat) (rest : List Char) :
    skipSpaced fuel rest <:+ rest := by
  induction fuel generalizing rest with
  | zero => exact List.suffix_rfl
  | succ fuel ih =>
    have hdrop := List.dropWhile_suffix (l := rest) Text.Blank.isBlank
    unfold skipSpaced
    split
    case h_1 comment hcomment =>
      have hline := List.dropWhile_suffix (l := comment) (· != '\n')
      have hcons := List.suffix_cons '#' comment
      rw [← hcomment] at hcons
      exact (((ih _).trans (List.drop_suffix 1 _)).trans hline).trans (hcons.trans hdrop)
    case h_2 => exact hdrop

theorem Input.blanks_suffix (s : Input) : s.blanks.rest <:+ s.rest := by
  unfold blanks
  split
  · exact skipSpaced_suffix _ _
  · exact List.suffix_rfl

theorem Input.next_suffix (s : Input) : s.next.rest <:+ s.rest :=
  (s.skip 1).blanks_suffix.trans (s.skip_suffix 1)

theorem Input.length_blanks_le (s : Input) : s.blanks.rest.length ≤ s.rest.length :=
  s.blanks_suffix.length_le

theorem Input.length_next_le (s : Input) : s.next.rest.length ≤ (s.skip 1).rest.length :=
  (s.skip 1).length_blanks_le

theorem Input.length_skip_lt {n : Nat} {c : Char} (hrest : s.rest = c :: rest) :
    (s.skip (n + 1)).rest.length < s.rest.length := by
  rw [skip, List.length_drop, hrest, List.length_cons]
  omega

theorem Input.length_next_lt {c : Char} (hc : s.rest = c :: rest) :
    s.next.rest.length < s.rest.length :=
  s.length_next_le.trans_lt (length_skip_lt hc)

namespace Tails

theorem Alike.skipSpaced {fuel fuel' : Nat} (h : T.Alike rest rest') (hfuel : rest.length < fuel)
    (hfuel' : rest'.length < fuel')
    (hin : T.given.length ≤ (Input.skipSpaced fuel rest).length) :
    T.Alike (Input.skipSpaced fuel rest) (Input.skipSpaced fuel' rest') := by
  induction fuel generalizing fuel' rest rest' with
  | zero => exact absurd hfuel (Nat.not_lt_zero _)
  | succ fuel ih =>
    cases fuel' with
    | zero => exact absurd hfuel' (Nat.not_lt_zero _)
    | succ fuel' =>
      have hdrop := h.dropWhile (p := Text.Blank.isBlank) (by decide)
      have hle := (List.dropWhile_suffix (l := rest) Text.Blank.isBlank).length_le
      have hle' := (List.dropWhile_suffix (l := rest') Text.Blank.isBlank).length_le
      unfold Input.skipSpaced at hin ⊢
      generalize rest.dropWhile Text.Blank.isBlank = left at *
      generalize rest'.dropWhile Text.Blank.isBlank = left' at *
      split at hin
      case h_1 comment =>
        obtain ⟨comment', rfl, hcomment⟩ := hdrop.tail_of_ne (by decide)
        have hline : T.given.length < (comment.dropWhile (· != '\n')).length := by
          have hrest := (Input.skipSpaced_suffix fuel
            ((comment.dropWhile (· != '\n')).drop 1)).length_le
          have hpos := T.given_pos
          rw [List.length_drop] at hrest
          omega
        have hbehind := (hcomment.while_of_lt hline).2
        refine ih (hbehind.drop (by rw [List.length_drop]; omega)) ?_ ?_ hin
        · have hlength := (List.dropWhile_suffix (l := comment) (· != '\n')).length_le
          simp only [List.length_cons, List.length_drop] at hle ⊢
          omega
        · have hlength := (List.dropWhile_suffix (l := comment') (· != '\n')).length_le
          simp only [List.length_cons, List.length_drop] at hle' ⊢
          omega
      case h_2 hnot =>
        split
        case h_1 comment' =>
          exact absurd rfl (hdrop.ne_cons (by decide) hnot comment')
        case h_2 => exact hdrop

namespace Twins

theorem skip {n : Nat} (h : T.Twins s s') (hin : T.given.length ≤ (s.skip n).rest.length) :
    T.Twins (s.skip n) (s'.skip n) :=
  ⟨h.rest.drop hin, h.flags, h.names⟩

theorem blanks (h : T.Twins s s') (hin : T.given.length ≤ s.blanks.rest.length) :
    T.Twins s.blanks s'.blanks := by
  unfold Input.blanks at hin ⊢
  rw [h.flags.spaced]
  split_ifs at hin ⊢
  · exact ⟨h.rest.skipSpaced (Nat.lt_succ_self _) (Nat.lt_succ_self _) hin, h.flags, h.names⟩
  · exact h

theorem next (h : T.Twins s s') (hin : T.given.length ≤ s.next.rest.length) :
    T.Twins s.next s'.next :=
  (h.skip (hin.trans s.length_next_le)).blanks hin

/-- The character that both inputs start with. -/
theorem cons {c : Char} (h : T.Twins s s') (hc : s.rest = c :: rest)
    (hin : T.given.length ≤ (s.skip 1).rest.length) : ∃ back, s'.rest = c :: back := by
  have hlength : T.given.length ≤ rest.length := by simpa [Input.skip, hc] using hin
  obtain ⟨back, hback, -⟩ := (hc ▸ h.rest).tail hlength
  exact ⟨back, hback⟩

theorem cons_of_lt {c : Char} (h : T.Twins s s') (hc : s.rest = c :: rest)
    (hlt : T.given.length < s.rest.length) : ∃ back, s'.rest = c :: back := by
  refine h.cons hc ?_
  rw [Input.skip, List.length_drop]
  exact Nat.le_sub_one_of_lt hlt

end Twins

end Tails

end Spaces

namespace Tails

/-- Behind a character that the input starts with, more than the tail is to come. -/
def Ahead (T : Tails) (c : Char) (s : Input) : Prop :=
  ∀ rest, s.rest = c :: rest → T.given.length < s.next.rest.length

variable {α β : Type}

/-- The reader finds something and leaves an input behind. -/
def Finds (read : Input → Option (α × Input)) (s : Input) (a : α) (t : Input) : Prop :=
  read s = some (a, t)

/-- So does a reader with fuel for every character. -/
def FindsAll (read : Nat → Input → Option (α × Input)) (s : Input) (a : α) (t : Input) : Prop :=
  ∀ fuel, s.rest.length < fuel → read fuel s = some (a, t)

/-- What was found in front of the given tail is found again in front of the other one. -/
structure Follows (T : Tails) (same : α → α → Prop) (s : Input) (a : α) (t : Input)
    (again : Input → α → Input → Prop) : Prop where
  suffix : t.rest <:+ s.rest
  found : ∀ s', T.Twins s s' → T.given.length ≤ t.rest.length →
    ∃ b t', again s' b t' ∧ same a b ∧ T.Twins t t'

theorem findsAll_of_succ {read : Nat → Input → Option (α × Input)} {s t : Input} {a : α}
    (h : ∀ fuel, s.rest.length ≤ fuel → read (fuel + 1) s = some (a, t)) : FindsAll read s a t := by
  intro fuel hfuel
  cases fuel with
  | zero => exact absurd hfuel (Nat.not_lt_zero _)
  | succ fuel => exact h fuel (Nat.le_of_lt_succ hfuel)

variable {T : Tails} {same : α → α → Prop} {same' : β → β → Prop} {s t u : Input} {a : α} {b : β}
  {again : Input → α → Input → Prop} {whole : Input → β → Input → Prop} {c : Char}
  {rest : List Char}

theorem follows_skip (hc : s.rest = c :: rest)
    (h : ∀ s' back, T.Twins s s' → s'.rest = c :: back →
      ∃ a', again s' a' (s'.skip 1) ∧ same a a') : T.Follows same s a (s.skip 1) again := by
  refine ⟨s.skip_suffix 1, fun s' hs hin => ?_⟩
  obtain ⟨back, hback⟩ := hs.cons hc hin
  obtain ⟨a', hfound, hsame⟩ := h s' back hs hback
  exact ⟨a', s'.skip 1, hfound, hsame, hs.skip hin⟩

theorem follows_next (hc : s.rest = c :: rest)
    (h : ∀ s' back, T.Twins s s' → s'.rest = c :: back →
      ∃ a', again s' a' s'.next ∧ same a a') : T.Follows same s a s.next again := by
  refine ⟨s.next_suffix, fun s' hs hin => ?_⟩
  obtain ⟨back, hback⟩ := hs.cons hc (hin.trans s.length_next_le)
  obtain ⟨a', hfound, hsame⟩ := h s' back hs hback
  exact ⟨a', s'.next, hfound, hsame, hs.next hin⟩

theorem follows_self (h : ∀ s', T.Twins s s' → ∃ a', again s' a' s' ∧ same a a') :
    T.Follows same s a s again := by
  refine ⟨List.suffix_rfl, fun s' hs _ => ?_⟩
  obtain ⟨a', hfound, hsame⟩ := h s' hs
  exact ⟨a', s', hfound, hsame, hs⟩

namespace Follows

theorem le (h : T.Follows same s a t again) : t.rest.length ≤ s.rest.length := h.suffix.length_le

theorem imp (h : T.Follows same s a t again)
    (hwhole : ∀ s' a' t', T.Twins s s' → T.Twins t t' → again s' a' t' → same a a' →
      ∃ b', whole s' b' t' ∧ same' b b') : T.Follows same' s b t whole := by
  refine ⟨h.suffix, fun s' hs hin => ?_⟩
  obtain ⟨a', t', hfound, hsame, ht⟩ := h.found s' hs hin
  obtain ⟨b', hwhole, hsame'⟩ := hwhole s' a' t' hs ht hfound hsame
  exact ⟨b', t', hwhole, hsame', ht⟩

theorem skip (h : T.Follows same (s.skip 1) a t again) (hc : s.rest = c :: rest)
    (hwhole : ∀ s' back a' t', T.Twins s s' → s'.rest = c :: back → T.Twins t t' →
      again (s'.skip 1) a' t' → same a a' → ∃ b', whole s' b' t' ∧ same' b b') :
    T.Follows same' s b t whole := by
  refine ⟨h.suffix.trans (s.skip_suffix 1), fun s' hs hin => ?_⟩
  have hin' := hin.trans h.le
  obtain ⟨a', t', hfound, hsame, ht⟩ := h.found _ (hs.skip hin') hin
  obtain ⟨back, hback⟩ := hs.cons hc hin'
  obtain ⟨b', hwhole, hsame'⟩ := hwhole s' back a' t' hs hback ht hfound hsame
  exact ⟨b', t', hwhole, hsame', ht⟩

theorem blanks (h : T.Follows same s.blanks a t again)
    (hwhole : ∀ s' a' t', T.Twins s s' → T.Twins t t' → again s'.blanks a' t' → same a a' →
      ∃ b', whole s' b' t' ∧ same' b b') : T.Follows same' s b t whole := by
  refine ⟨h.suffix.trans s.blanks_suffix, fun s' hs hin => ?_⟩
  obtain ⟨a', t', hfound, hsame, ht⟩ := h.found _ (hs.blanks (hin.trans h.le)) hin
  obtain ⟨b', hwhole, hsame'⟩ := hwhole s' a' t' hs ht hfound hsame
  exact ⟨b', t', hwhole, hsame', ht⟩

theorem next (h : T.Follows same s.next a t again) (hc : s.rest = c :: rest)
    (hwhole : ∀ s' back a' t', T.Twins s s' → s'.rest = c :: back → T.Twins t t' →
      again s'.next a' t' → same a a' → ∃ b', whole s' b' t' ∧ same' b b') :
    T.Follows same' s b t whole := by
  have hskip : T.Follows same (s.skip 1) a t fun s' => again s'.blanks :=
    Follows.blanks h fun _ a' _ _ _ hfound hsame => ⟨a', hfound, hsame⟩
  exact hskip.skip hc hwhole

/-- One reader after another. -/
theorem andThen {γ : Type} {same'' : γ → γ → Prop} {g : γ} {again' : α → Input → β → Input → Prop}
    {both : Input → γ → Input → Prop} (h : T.Follows same s a u again) (hrefl : same a a)
    (h' : ∀ a', same a a' → T.Follows same' u b t (again' a'))
    (hboth : ∀ s' a' u' b' t', T.Twins s s' → T.Twins u u' → T.Twins t t' → again s' a' u' →
      same a a' → again' a' u' b' t' → same' b b' → ∃ g', both s' g' t' ∧ same'' g g') :
    T.Follows same'' s g t both := by
  refine ⟨(h' a hrefl).suffix.trans h.suffix, fun s' hs hin => ?_⟩
  obtain ⟨a', u', hread, hsame, hu⟩ := h.found s' hs (hin.trans (h' a hrefl).le)
  obtain ⟨b', t', hread', hsame', ht⟩ := (h' a' hsame).found u' hu hin
  obtain ⟨g', hboth, hsame''⟩ := hboth s' a' u' b' t' hs hu ht hread hsame hread' hsame'
  exact ⟨g', t', hboth, hsame'', ht⟩

end Follows

end Tails

end MetastoreFederation.Regex
