import MetastoreFederation.Proofs.Regex.Tails

/-!
What stands behind a backslash, in texts that start alike: code points, properties, boundaries of
words and classes. What was read in front of the one tail is read in front of the other.
-/

set_option autoImplicit false
set_option relaxedAutoImplicit false

namespace MetastoreFederation.Regex

namespace Tails

variable {T : Tails} {s t : Input}

/-- The expressions or sets are the same, but for case where that is of no interest. -/
def Agree {α : Type} (T : Tails) (a b : α) : Prop := T.exact → a = b

section Digits

variable {count n m fuel : Nat} {n? : Option Nat}

theorem follows_hexFixed (h : hexFixed count n s = some (m, t)) :
    T.Follows (· = ·) s m t (Finds (hexFixed count n)) := by
  induction count generalizing n s with
  | zero =>
    cases h
    exact follows_self fun s' _ => ⟨m, rfl, rfl⟩
  | succ count ih =>
    obtain ⟨c, hc, h⟩ := Option.bind_eq_some_iff.mp h
    obtain ⟨d, hd, h⟩ := Option.bind_eq_some_iff.mp h
    obtain ⟨rest, hrest⟩ := List.head?_eq_some_iff.mp hc
    refine (ih h).next hrest fun s' back m' t' _ hback _ hread hm => ⟨m', ?_, hm⟩
    simpa [Finds, hexFixed, hback, hd] using hread

theorem follows_hexBraced (h : hexBraced fuel n? s = some (m, t)) :
    T.Follows (· = ·) s m t (FindsAll fun fuel => hexBraced fuel n?) := by
  induction fuel generalizing n? s with
  | zero => cases h
  | succ fuel ih =>
    obtain ⟨c, hc, h⟩ := Option.bind_eq_some_iff.mp h
    obtain ⟨rest, hrest⟩ := List.head?_eq_some_iff.mp hc
    split_ifs at h with hbrace
    · obtain ⟨n, hn, h⟩ := Option.bind_eq_some_iff.mp h
      cases h
      exact follows_skip hrest fun s' back _ hback =>
        ⟨m, findsAll_of_succ fun fuel _ => by simp [hexBraced, hback, hbrace, hn], rfl⟩
    · obtain ⟨d, hd, h⟩ := Option.bind_eq_some_iff.mp h
      refine (ih h).next hrest fun s' back m' t' _ hback _ hread hm =>
        ⟨m', findsAll_of_succ fun fuel hfuel => ?_, hm⟩
      simpa [hexBraced, hback, hbrace, hd] using
        hread fuel ((Input.length_next_lt hback).trans_le hfuel)

theorem follows_codePoint? {width : Nat} {c : Char} (h : codePoint? width s = some (c, t)) :
    T.Follows (· = ·) s c t (Finds (codePoint? width)) := by
  unfold codePoint? at h
  split at h
  case h_1 rest hrest =>
    obtain ⟨⟨n, u⟩, hdigits, h⟩ := Option.bind_eq_some_iff.mp h
    obtain ⟨d, hd, h⟩ := Option.bind_eq_some_iff.mp h
    cases h
    refine (follows_hexBraced hdigits).next hrest fun s' back m' t' _ hback _ hread hm =>
      ⟨c, ?_, rfl⟩
    obtain rfl := hm
    have hread : hexBraced (s'.rest.length + 1) none s'.next = some (n, t') :=
      hread _ ((Input.length_next_lt hback).trans (Nat.lt_succ_self _))
    rw [hback, List.length_cons] at hread
    simp [Finds, codePoint?, hback, hread, hd]
  case h_2 hnot =>
    obtain ⟨⟨n, u⟩, hdigits, h⟩ := Option.bind_eq_some_iff.mp h
    obtain ⟨d, hd, h⟩ := Option.bind_eq_some_iff.mp h
    cases h
    refine (follows_hexFixed hdigits).imp fun s' m' t' hs _ hread hm => ⟨c, ?_, rfl⟩
    obtain rfl := hm
    have hnot' := hs.rest.ne_cons (by decide) hnot
    unfold Finds codePoint?
    split
    case h_1 back hback => exact absurd hback (hnot' back)
    case h_2 =>
      have hread : hexFixed width 0 s' = some (n, t') := hread
      simp [hread, hd]

end Digits

theorem length_takeWhile_add (p : Char → Bool) (rest : List Char) :
    (rest.takeWhile p).length + (rest.dropWhile p).length = rest.length := by
  rw [← List.length_append, List.takeWhile_append_dropWhile]

theorem follows_property? {set : CharSet} (h : property? s = some (set, t)) :
    T.Follows (· = ·) s set t (Finds property?) := by
  unfold property? at h
  split at h
  case h_1 rest hrest =>
    dsimp only at h
    split_ifs at h with hopen
    obtain ⟨found, hfound, hset⟩ := Option.map_eq_some_iff.mp h
    cases hset
    have hlengths := length_takeWhile_add (· != '}') rest
    have hpos := T.given_pos
    refine ⟨s.skip_suffix _, fun s' hs hin => ?_⟩
    obtain ⟨back, hback, halike⟩ := (hrest ▸ hs.rest).tail_of_ne (by decide)
    have hin' := hin
    simp only [Input.skip, List.length_drop, hrest, List.length_cons] at hin'
    obtain ⟨htake, hdrop⟩ := halike.while_of_lt (p := (· != '}')) (by omega)
    have hlengths' := length_takeWhile_add (· != '}') back
    have hopen' : (back.takeWhile (· != '}')).length ≠ back.length := by
      have hlength := hdrop.length
      omega
    refine ⟨set, s'.skip ((back.takeWhile (· != '}')).length + 2), ?_, rfl, ?_⟩
    · unfold Finds property?
      simp only [hback, hopen', if_false]
      rw [htake, hfound]
      rfl
    · rw [htake]
      exact hs.skip hin
  case h_2 c rest hnot hrest =>
    obtain ⟨found, hfound, hset⟩ := Option.map_eq_some_iff.mp h
    cases hset
    refine follows_skip hrest fun s' back _ hback => ⟨set, ?_, rfl⟩
    unfold Finds property?
    simp only [hback, hfound, Option.map_some]
  case h_3 => cases h

end Tails

section Boundaries

variable {s t : Input} {c : Char} {tail rest : List Char}

/-- Reads the name of a word boundary from behind its opening brace. -/
def boundaryName? (s : Input) : Option (WordPlace × Input) :=
  let name := s.rest.takeWhile fun c => c.isAlpha || c == '-'
  match (s.skip name.length).blanks.rest with
  | [] => none
  | '\x7d' :: rest =>
    (wordPlaces.lookup (String.ofList name)).map fun place => (place, { s with rest := rest })
  | _ => none

/-- No name starts behind the input, in a brace. -/
def Unnamed (s : Input) : Prop :=
  ∀ tail, s.rest = '\x7b' :: tail →
    ∃ c rest, s.next.rest = c :: rest ∧ (c.isAlpha || c == '-') = false

theorem wordBoundary?_unnamed (h : Unnamed s) :
    wordBoundary? s = some (.word .boundary s.flags.ascii, s) := by
  unfold wordBoundary?
  split
  case h_1 tail hrest =>
    obtain ⟨c, rest, hinner, hname⟩ := h tail hrest
    simp only [hinner, hname]
    rfl
  case h_2 => rfl

theorem wordBoundary?_named (hrest : s.rest = '\x7b' :: tail) (hinner : s.next.rest = c :: rest)
    (hname : (c.isAlpha || c == '-') = true) :
    wordBoundary? s = (boundaryName? s.next).map fun read =>
      (.word read.1 s.flags.ascii, { s with rest := read.2.rest }) := by
  unfold wordBoundary? boundaryName?
  simp only [hrest, hinner, hname, Bool.not_true, Bool.false_eq_true, if_false]
  split
  case h_1 rest' hclose =>
    simp only [hclose, Option.map_map]
    rfl
  case h_2 hnot =>
    split
    case h_1 => rfl
    case h_2 rest' hclose => exact (hnot rest' hclose).elim
    case h_3 => rfl

theorem unnamed_or_named {l : Look} (h : wordBoundary? s = some (l, t)) :
    Unnamed s ∨ ∃ tail c rest, s.rest = '\x7b' :: tail ∧ s.next.rest = c :: rest ∧
      (c.isAlpha || c == '-') = true := by
  unfold wordBoundary? at h
  split at h
  case h_1 tail hrest =>
    dsimp only at h
    split at h
    case h_1 => cases h
    case h_2 c rest hinner =>
      cases hname : c.isAlpha || c == '-' with
      | true => exact .inr ⟨tail, c, rest, hrest, hinner, hname⟩
      | false => exact .inl fun _ _ => ⟨c, rest, hinner, hname⟩
  case h_2 hnot => exact .inl fun tail hrest => (hnot tail hrest).elim

end Boundaries

namespace Tails

variable {T : Tails} {s t : Input}

theorem follows_boundaryName? {place : WordPlace} (h : boundaryName? s = some (place, t)) :
    T.Follows (· = ·) s place t (Finds boundaryName?) := by
  let p (c : Char) : Bool := c.isAlpha || c == '-'
  let behind := s.skip (s.rest.takeWhile p).length
  unfold boundaryName? at h
  dsimp only at h
  split at h
  case h_1 | h_3 => cases h
  case h_2 rest hclose =>
    obtain ⟨found, hfound, h⟩ := Option.map_eq_some_iff.mp h
    cases h
    have hclose : behind.blanks.rest = '\x7d' :: rest := hclose
    have hsuffix := behind.blanks_suffix.trans (s.skip_suffix _)
    refine ⟨tail_suffix hclose hsuffix, fun s' hs hin => ?_⟩
    have hlt : rest.length < behind.blanks.rest.length :=
      Nat.lt_of_succ_le (congrArg List.length hclose).ge
    have hblanks := behind.length_blanks_le
    have hbehind : behind.rest.length = (s.rest.dropWhile p).length := by
      have hlengths := length_takeWhile_add p s.rest
      simp only [behind, Input.skip, List.length_drop]
      omega
    dsimp only at hin
    have htake : s'.rest.takeWhile p = s.rest.takeWhile p :=
      (hs.rest.while_of_lt (p := p) (by omega)).1
    have hclosing : T.Twins behind.blanks (s'.skip (s'.rest.takeWhile p).length).blanks := by
      rw [htake]
      exact (hs.skip (hin.trans (hlt.le.trans hblanks))).blanks (hin.trans hlt.le)
    obtain ⟨close, hclose', hleft⟩ := (hclose ▸ hclosing.rest).tail_of_ne (by decide)
    refine ⟨place, { s' with rest := close }, ?_, rfl, hleft, hs.flags, hs.names⟩
    have hfound : wordPlaces.lookup (String.ofList (s'.rest.takeWhile p)) = some place := by
      rw [htake]
      exact hfound
    unfold Finds boundaryName?
    simp only [p] at hclose' hfound
    simp only [hclose', hfound]
    rfl

/-- A boundary of words is read alike. It looks into an opened brace behind it for a name, and has
to find the same there. -/
theorem follows_wordBoundary? {l : Look} (h : wordBoundary? s = some (l, t)) :
    T.Follows (· = ·) s l t fun s' l' t' => T.Ahead '\x7b' t →
      wordBoundary? s' = some (l', t') := by
  rcases unnamed_or_named h with hunnamed | ⟨tail, c, rest, hrest, hinner, hname⟩
  · rw [wordBoundary?_unnamed hunnamed] at h
    cases h
    refine follows_self fun s' hs => ⟨_, fun hahead => ?_, rfl⟩
    rw [← hs.flags.ascii]
    refine wordBoundary?_unnamed fun back hback => ?_
    obtain ⟨tail, hrest, -⟩ := (hback ▸ hs.rest).of_append_other ['\x7b'] (by decide)
    obtain ⟨c, rest, hinner, hname⟩ := hunnamed tail hrest
    have hlt := hahead tail hrest
    obtain ⟨back', hback'⟩ := (hs.next hlt.le).cons_of_lt hinner hlt
    exact ⟨c, back', hback', hname⟩
  · rw [wordBoundary?_named hrest hinner hname] at h
    obtain ⟨⟨place, u⟩, hread, h⟩ := Option.map_eq_some_iff.mp h
    cases h
    have hreadName := follows_boundaryName? (T := T) hread
    refine ⟨hreadName.suffix.trans s.next_suffix, fun s' hs hin => ?_⟩
    have hnext := hs.next (hin.trans hreadName.le)
    obtain ⟨_, u', hread', rfl, hu⟩ := hreadName.found _ hnext hin
    obtain ⟨back, hback, -⟩ := (hrest ▸ hs.rest).tail_of_ne (by decide)
    have hclose : c ≠ ')' := by
      rintro rfl
      cases hname
    obtain ⟨back', hback', -⟩ := (hinner ▸ hnext.rest).tail_of_ne hclose
    have hread' : boundaryName? s'.next = some (place, u') := hread'
    refine ⟨_, { s' with rest := u'.rest }, fun _ => ?_, rfl, hu.rest, hs.flags, hs.names⟩
    rw [wordBoundary?_named hback hback' hname, hread', hs.flags.ascii]
    rfl

/-- Atoms of one kind that agree. -/
inductive SameAtom (T : Tails) : Atom → Atom → Prop
  | char (c : Char) : SameAtom T (.char c) (.char c)
  | set {a b : CharSet} (h : T.Agree a b) : SameAtom T (.set a) (.set b)
  | look (l : Look) : SameAtom T (.look l) (.look l)

theorem Agree.withCase {f f' : Flags} {a b : CharSet} (hf : T.SameFlags f f') (h : T.Agree a b) :
    T.Agree (withCase f a) (withCase f' b) := by
  intro hexact
  unfold Regex.withCase
  rw [hf.caseless hexact, hf.ascii, h hexact]

theorem Agree.negatedIf {f f' : Flags} {a b set : CharSet} {negated : Bool} (hf : T.SameFlags f f')
    (h : T.Agree a b) (hset : negatedIf negated f a = some set) :
    ∃ set', Regex.negatedIf negated f' b = some set' ∧ T.Agree set set' := by
  unfold Regex.negatedIf at hset ⊢
  rw [hf.ascii]
  split_ifs at hset ⊢
  · cases hset
    exact ⟨b, rfl, h⟩
  · cases hset
    exact ⟨b.complement, rfl, fun hexact => congrArg _ (h hexact)⟩

theorem follows_escape? {atom : Atom} (h : escape? s = some (atom, t)) :
    T.Follows T.SameAtom s atom t fun s' atom' t' =>
      (∀ l, atom = .look l → T.Ahead '\x7b' t) → escape? s' = some (atom', t') := by
  obtain ⟨c, hc, h⟩ := Option.bind_eq_some_iff.mp h
  obtain ⟨rest, hrest⟩ := List.head?_eq_some_iff.mp hc
  dsimp only at h
  split at h
  -- The classes.
  case h_1 | h_2 | h_3 | h_4 | h_5 | h_6 =>
    obtain ⟨set, hset, h⟩ := Option.bind_eq_some_iff.mp h
    cases h
    refine follows_skip hrest fun s' back hs hback => ?_
    obtain ⟨set', hset', hagree⟩ := Agree.negatedIf hs.flags (fun _ => rfl) hset
    refine ⟨.set set', fun _ => ?_, .set hagree⟩
    simp [escape?, hback, hs.flags.ascii, hset']
  -- The properties.
  case h_7 | h_8 =>
    split_ifs at h with hascii
    obtain ⟨⟨set, u⟩, hproperty, h⟩ := Option.bind_eq_some_iff.mp h
    obtain ⟨whole, hwhole, h⟩ := Option.bind_eq_some_iff.mp h
    cases h
    refine (follows_property? hproperty).next hrest fun s' back set' t' hs hback ht hread hset => ?_
    obtain rfl := hset
    obtain ⟨whole', hwhole', hagree⟩ :=
      Agree.negatedIf ht.flags (Agree.withCase ht.flags fun _ => rfl) hwhole
    refine ⟨.set whole', fun _ => ?_, .set hagree⟩
    have hread : property? (s'.skip 1).blanks = some (set, t') := hread
    simp only [escape?, hback, List.head?_cons, Option.bind_eq_bind, Option.bind_some,
      hs.flags.ascii, hascii, Bool.false_eq_true, if_false, hread]
    exact Option.bind_eq_some_iff.mpr ⟨whole', hwhole', rfl⟩
  case h_9 | h_10 | h_11 =>
    obtain ⟨⟨d, u⟩, hpoint, h⟩ := Option.map_eq_some_iff.mp h
    cases h
    refine (follows_codePoint? hpoint).skip hrest fun s' back d' t' hs hback _ hread hd => ?_
    obtain rfl := hd
    have hread : codePoint? _ (s'.skip 1) = some (d, t') := hread
    refine ⟨.char d, fun _ => ?_, .char d⟩
    simp [escape?, hback, hread]
  case h_12 | h_13 | h_14 | h_15 | h_16 | h_17 =>
    cases h
    exact follows_skip hrest fun s' back _ hback =>
      ⟨.char _, fun _ => by simp [escape?, hback], .char _⟩
  case h_18 | h_19 | h_20 | h_21 | h_22 =>
    cases h
    exact follows_skip hrest fun s' back hs hback =>
      ⟨.look _, fun _ => by simp [escape?, hback, hs.flags.ascii], .look _⟩
  case h_23 =>
    obtain ⟨⟨l, u⟩, hword, h⟩ := Option.map_eq_some_iff.mp h
    cases h
    refine (follows_wordBoundary? hword).skip hrest fun s' back l' t' hs hback _ hread hl => ?_
    obtain rfl := hl
    refine ⟨.look l, fun hahead => ?_, .look l⟩
    simp [escape?, hback, hread (hahead l rfl)]
  case h_24 =>
    split_ifs at h with hplain
    cases h
    exact follows_skip hrest fun s' back _ hback =>
      ⟨.char c, fun _ => by simp_all [escape?], .char c⟩

end Tails

end MetastoreFederation.Regex
