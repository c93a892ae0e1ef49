import MetastoreFederation.Proofs.Regex.Sets

/-!
Atoms and counts in texts that start alike: what can be repeated, and how often it is.
-/

set_option autoImplicit false
set_option relaxedAutoImplicit false

namespace MetastoreFederation.Regex

namespace Tails

variable {T : Tails} {s s' t : Input} {fuel : Nat}

section Atoms

theorem Agree.toExpr {f f' : Flags} {a b : Atom} (hf : T.SameFlags f f')
    (h : T.SameAtom a b) : T.Agree (a.toExpr f) (b.toExpr f') := by
  intro hexact
  cases h with
  | char c =>
    have hcase : Regex.withCase f (.single c) = Regex.withCase f' (.single c) :=
      Agree.withCase hf (fun _ => rfl) hexact
    simp only [Atom.toExpr, hf.ascii, hcase]
  | set h => exact congrArg Expr.set (h hexact)
  | look l => rfl

/-- An atom is read alike. A boundary of words may end in front of an opened brace, which is looked
into. -/
theorem follows_atom? {e : Expr} (h : atom? fuel s = some (e, t)) :
    T.Follows T.Agree s e t fun s' e' t' => T.Ahead '\x7b' t → ∀ fuel, s'.rest.length ≤ fuel →
      atom? fuel s' = some (e', t') := by
  unfold atom? at h
  split at h
  case h_1 => cases h
  case h_2 rest hrest =>
    obtain ⟨⟨atom, u⟩, hescape, h⟩ := Option.bind_eq_some_iff.mp h
    cases h
    refine (follows_escape? hescape).skip hrest fun s' back atom' t' hs hback _ hread hsame =>
      ⟨atom'.toExpr s'.flags, fun hahead fuel _ => ?_, Agree.toExpr hs.flags hsame⟩
    simp [atom?, hback, hread fun _ _ => hahead]
  case h_3 rest hrest =>
    obtain ⟨⟨set, u⟩, hbracket, h⟩ := Option.bind_eq_some_iff.mp h
    cases h
    refine (follows_bracket? hbracket).skip hrest fun s' back set' t' hs hback _ hread hset =>
      ⟨.set set', fun _ fuel hfuel => ?_, fun hexact => congrArg _ (hset hexact)⟩
    simp [atom?, hback, hread fuel ((Input.length_skip_lt hback).trans_le hfuel)]
  case h_4 rest hrest =>
    obtain ⟨set, hset, h⟩ := Option.bind_eq_some_iff.mp h
    cases h
    refine follows_skip hrest fun s' back hs hback => ⟨.set set, fun _ fuel _ => ?_, fun _ => rfl⟩
    have hset' : dotSet? s'.flags = some set := by
      unfold dotSet? at hset ⊢
      rwa [hs.flags.crlf, hs.flags.ascii, hs.flags.dotAll]
    simp [atom?, hback, hset']
  case h_5 rest hrest | h_6 rest hrest =>
    cases h
    exact follows_skip hrest fun s' back hs hback => ⟨_, fun _ fuel _ => by
      simp [atom?, hback, hs.flags.multiline, hs.flags.crlf], fun _ => rfl⟩
  case h_7 c rest hslash hopen hdot hstart hend hrest =>
    cases h
    exact follows_skip hrest fun s' back hs hback => ⟨_, fun _ fuel _ => by
      simp_all [atom?], Agree.toExpr hs.flags (.char c)⟩

end Atoms

section Counts

variable {n : Nat} {n? : Option Nat}

theorem Twins.anyBlanks (h : T.Twins s s') : T.Twins s.anyBlanks s'.anyBlanks :=
  ⟨h.rest.dropWhile (by decide), h.flags, h.names⟩

theorem length_anyBlanks_le (s : Input) : s.anyBlanks.rest.length ≤ s.rest.length :=
  (List.dropWhile_suffix _).length_le

/-- No digit follows, nor does one in front of the other tail. -/
theorem follows_countDigits_end (h : ∀ c ∈ s.rest.head?, c.isDigit = false) :
    T.Follows (· = ·) s n? s fun s' a t' => ∀ fuel, s'.rest.length ≤ fuel →
      countDigits fuel n? s' = (a, t') := by
  refine follows_self fun s' hs => ⟨n?, fun fuel _ => ?_, rfl⟩
  have hhead := hs.rest.head?_false (by decide) h
  cases fuel with
  | zero => rfl
  | succ fuel =>
    unfold countDigits
    split
    case h_1 c back heq =>
      rw [heq] at hhead
      rw [if_neg (by simp [hhead c rfl])]
    case h_2 => rfl

theorem follows_countDigits {n₀? : Option Nat} (h : countDigits fuel n₀? s = (n?, t))
    (hfuel : s.rest.length ≤ fuel) :
    T.Follows (· = ·) s n? t fun s' a t' => ∀ fuel, s'.rest.length ≤ fuel →
      countDigits fuel n₀? s' = (a, t') := by
  induction fuel generalizing n₀? s with
  | zero =>
    cases h
    refine ⟨List.suffix_rfl, fun s' hs hin => ?_⟩
    have hpos := T.given_pos
    omega
  | succ fuel ih =>
    unfold countDigits at h
    split at h
    case h_1 c rest hrest =>
      split_ifs at h with hdigit
      · have hlt := Input.length_next_lt hrest
        refine (ih h (by omega)).next hrest fun s' back a t' _ hback _ hread ha =>
          ⟨a, fun fuel hfuel => ?_, ha⟩
        have hlt' := Input.length_next_lt hback
        obtain ⟨fuel, rfl⟩ := Nat.exists_eq_succ_of_ne_zero (by omega : fuel ≠ 0)
        unfold countDigits
        simp only [hback, hdigit, if_true]
        exact hread fuel (by omega)
      · cases h
        exact follows_countDigits_end fun d hd => by simp_all
    case h_2 hrest =>
      cases h
      exact follows_countDigits_end (by simp [hrest])

theorem follows_count? (h : count? s = some (n, t)) :
    T.Follows (· = ·) s n t (Finds count?) := by
  obtain ⟨n?, u, hdigits⟩ : ∃ n? u,
      countDigits s.anyBlanks.rest.length none s.anyBlanks = (n?, u) := ⟨_, _, rfl⟩
  have hread := follows_countDigits (T := T) hdigits (Nat.le_refl _)
  unfold count? at h
  dsimp only at h
  rw [hdigits] at h
  obtain ⟨m, hm, h⟩ := Option.bind_eq_some_iff.mp h
  dsimp only at hm h
  split_ifs at h with hbound
  cases h
  have hle := hread.le
  have hblanks := length_anyBlanks_le u
  refine ⟨((List.dropWhile_suffix _).trans hread.suffix).trans (List.dropWhile_suffix _),
    fun s' hs hin => ?_⟩
  obtain ⟨_, u', hread', rfl, hu⟩ := hread.found _ hs.anyBlanks (by omega)
  refine ⟨n, u'.anyBlanks, ?_, rfl, hu.anyBlanks⟩
  unfold Finds count?
  dsimp only
  rw [hread' _ (Nat.le_refl _)]
  simp [hm, hbound]

theorem length_countDigits_lt (h : countDigits fuel none s = (some n, t))
    (hfuel : s.rest.length ≤ fuel) : t.rest.length < s.rest.length := by
  cases fuel with
  | zero => cases h
  | succ fuel =>
    unfold countDigits at h
    split at h
    case h_1 c rest hrest =>
      split_ifs at h with hdigit
      · have hlt := Input.length_next_lt hrest
        have hle := (follows_countDigits (T := .closing) h (by omega)).le
        omega
      · cases h
    case h_2 => cases h

theorem length_count?_lt (h : count? s = some (n, t)) : t.rest.length < s.rest.length := by
  obtain ⟨n?, u, hdigits⟩ : ∃ n? u,
      countDigits s.anyBlanks.rest.length none s.anyBlanks = (n?, u) := ⟨_, _, rfl⟩
  unfold count? at h
  dsimp only at h
  rw [hdigits] at h
  obtain ⟨m, rfl, h⟩ := Option.bind_eq_some_iff.mp h
  dsimp only at h
  split_ifs at h
  cases h
  have hlt := length_countDigits_lt hdigits (Nat.le_refl _)
  have hblanks := length_anyBlanks_le s
  have hblanks' := length_anyBlanks_le u
  omega

end Counts

end Tails

/-- Reads the most matches from behind the comma, up to the closing brace. None may be given. -/
def bound? (least : Nat) (s : Input) : Option (Option Nat × Input) :=
  if s.rest.head? = some '\x7d' then some (none, s.skip 1)
  else
    (count? s).bind fun read =>
      if read.2.rest.head? = some '\x7d' && least ≤ read.1 then some (some read.1, read.2.skip 1)
      else none

/-- Reads the most matches, behind the least ones. -/
def most? (least : Nat) (s : Input) : Option (Option Nat × Input) :=
  match s.rest with
  | [] => none
  | '\x7d' :: _ => some (some least, s.skip 1)
  | ',' :: _ => bound? least s.next
  | _ => none

theorem counts?_eq (s : Input) :
    counts? s = (count? s.blanks).bind fun read =>
      (most? read.1 read.2).map fun last => (read.1, last.1, last.2) := by
  unfold counts? most? bound?
  refine congrArg _ (funext fun ⟨least, u⟩ => ?_)
  dsimp only
  split
  case h_1 rest hrest =>
    simp only [hrest]
    rfl
  case h_2 rest hrest =>
    simp only [hrest]
    split
    case h_1 rest' hnext =>
      simp only [hnext]
      rfl
    case h_2 hnot =>
      have hhead : u.next.rest.head? ≠ some '\x7d' := by
        intro hhead
        obtain ⟨rest', hnext⟩ := List.head?_eq_some_iff.mp hhead
        exact hnot rest' hnext
      rw [if_neg hhead, Option.map_bind]
      refine congrArg _ (funext fun ⟨most, v⟩ => ?_)
      simp only [Function.comp_apply]
      split_ifs <;> rfl
  case h_3 hclose hcomma =>
    split
    case h_1 | h_4 => rfl
    case h_2 rest hrest => exact (hclose rest hrest).elim
    case h_3 rest hrest => exact (hcomma rest hrest).elim

namespace Tails

variable {T : Tails} {s t : Input} {least : Nat} {most : Option Nat}

theorem follows_bound? (h : bound? least s = some (most, t)) :
    T.Follows (· = ·) s most t (Finds (bound? least)) := by
  unfold bound? at h
  split_ifs at h with hnone
  · cases h
    obtain ⟨rest, hrest⟩ := List.head?_eq_some_iff.mp hnone
    exact follows_skip hrest fun s' back _ hback => ⟨_, by simp [Finds, bound?, hback], rfl⟩
  · obtain ⟨⟨n, u⟩, hcount, h⟩ := Option.bind_eq_some_iff.mp h
    dsimp only at h
    split_ifs at h with hclose
    cases h
    rw [Bool.and_eq_true, decide_eq_true_eq, decide_eq_true_eq] at hclose
    obtain ⟨rest, hrest⟩ := List.head?_eq_some_iff.mp hclose.1
    have hread := follows_count? (T := T) hcount
    have hle := (u.skip_suffix 1).length_le
    refine ⟨(u.skip_suffix 1).trans hread.suffix, fun s' hs hin => ?_⟩
    obtain ⟨_, u', hcount', rfl, hu⟩ := hread.found s' hs (hin.trans hle)
    obtain ⟨back, hback, -⟩ := (hrest ▸ hu.rest).tail_of_ne (by decide)
    refine ⟨some n, u'.skip 1, ?_, rfl, hu.skip hin⟩
    have hcount' : count? s' = some (n, u') := hcount'
    have hnone' : s'.rest.head? ≠ some '\x7d' := by
      intro hnone'
      obtain ⟨back', hback'⟩ := List.head?_eq_some_iff.mp hnone'
      refine hs.rest.ne_cons (by decide) (fun rest' hrest' => hnone ?_) back' hback'
      rw [hrest', List.head?_cons]
    unfold Finds bound?
    rw [if_neg hnone', hcount', Option.bind_some]
    simp [hback, hclose.2]

theorem follows_most? (h : most? least s = some (most, t)) :
    T.Follows (· = ·) s most t (Finds (most? least)) := by
  unfold most? at h
  split at h
  case h_1 | h_4 => cases h
  case h_2 rest hrest =>
    cases h
    exact follows_skip hrest fun s' back _ hback => ⟨_, by simp [Finds, most?, hback], rfl⟩
  case h_3 rest hrest =>
    refine (follows_bound? h).next hrest fun s' back a t' _ hback _ hread ha => ⟨a, ?_, ha⟩
    unfold Finds most?
    simp only [hback]
    exact hread

theorem follows_counts? (h : counts? s = some (least, most, t)) :
    T.Follows (· = ·) s (least, most) t fun s' a t' => counts? s' = some (a.1, a.2, t') := by
  rw [counts?_eq] at h
  obtain ⟨⟨n, u⟩, hcount, h⟩ := Option.bind_eq_some_iff.mp h
  obtain ⟨⟨bound, v⟩, hmost, h⟩ := Option.map_eq_some_iff.mp h
  cases h
  have hboth : T.Follows (· = ·) s.blanks (n, bound) v fun s' a t' =>
      ∃ u', count? s' = some (a.1, u') ∧ most? a.1 u' = some (a.2, t') :=
    (follows_count? hcount).andThen rfl (fun _ _ => follows_most? hmost)
      fun s' a u' a' t' _ _ _ hread ha hread' ha' =>
        ⟨(n, bound), ⟨u', ha ▸ hread, ha' ▸ hread'⟩, rfl⟩
  refine hboth.blanks fun s' a t' _ _ hread ha => ⟨a, ?_, ha⟩
  obtain ⟨u', hread, hread'⟩ := hread
  rw [counts?_eq, hread, Option.bind_some, hread']
  rfl

/-- Counts start with a digit, behind which the rest of them is. -/
theorem length_counts?_lt (h : counts? s = some (least, most, t)) :
    t.rest.length < s.blanks.rest.length := by
  rw [counts?_eq] at h
  obtain ⟨⟨n, u⟩, hcount, h⟩ := Option.bind_eq_some_iff.mp h
  obtain ⟨⟨bound, v⟩, hmost, h⟩ := Option.map_eq_some_iff.mp h
  cases h
  exact (follows_most? (T := .closing) hmost).le.trans_lt (length_count?_lt hcount)

end Tails

end MetastoreFederation.Regex
