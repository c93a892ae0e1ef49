import Mathlib.Data.List.TakeWhile
import MetastoreFederation.Proofs.Regex.Escapes

/-!
Sets in brackets, in texts that start alike: classes with a name, single members and ranges, and the
operations between sets.
-/

set_option autoImplicit false
set_option relaxedAutoImplicit false

namespace MetastoreFederation.Regex

/-- The text of a class, which may start with a caret. -/
def caret : List Char → Bool × List Char
  | '^' :: rest => (true, rest)
  | rest => (false, rest)

theorem exists_of_caret {negated : Bool} {rest behind : List Char}
    (h : caret rest = (negated, behind)) :
    ∃ front, rest = front ++ behind ∧ ')' ∉ front ∧
      ∀ other, other.head? = behind.head? → caret (front ++ other) = (negated, other) := by
  unfold caret at h
  split at h
  case h_1 rest =>
    cases h
    exact ⟨['^'], rfl, by decide, fun other _ => rfl⟩
  case h_2 hnot =>
    cases h
    refine ⟨[], rfl, List.not_mem_nil, fun other hother => ?_⟩
    unfold caret
    split
    case h_1 back hback =>
      have hhead := hother.symm.trans (congrArg List.head? hback)
      obtain ⟨behind, hbehind⟩ := List.head?_eq_some_iff.mp hhead
      exact (hnot behind hbehind).elim
    case h_2 => rfl

/-- The class whose name the text starts with, and what is behind it. -/
def namedClass? (negated : Bool) (text : List Char) : Option (CharSet × List Char) :=
  let name := text.takeWhile (· != ':')
  match text.drop name.length with
  | ':' :: ']' :: after => (CharSet.asciiClasses.lookup (String.ofList name)).map fun set =>
      (if negated then set.complement else set, after)
  | _ => none

theorem asciiClass?_eq {s : Input} {rest : List Char} (hrest : s.rest = '[' :: ':' :: rest) :
    asciiClass? s = (namedClass? (caret rest).1 (caret rest).2).map fun read =>
      (read.1, { s with rest := read.2 }) := by
  unfold asciiClass? namedClass?
  simp only [hrest]
  change (match (caret rest).2.drop ((caret rest).2.takeWhile (· != ':')).length with
    | ':' :: ']' :: after => _
    | _ => none) = _
  split
  case h_1 after _ =>
    rw [Option.map_map]
    exact (Option.map_eq_bind ..).symm
  case h_2 => rfl

theorem namedClass?_eq_some {negated : Bool} {text after : List Char} {set : CharSet}
    (h : namedClass? negated text = some (set, after)) :
    ∃ name, text = name ++ ':' :: ']' :: after ∧ ')' ∉ name ∧
      ∀ after', namedClass? negated (name ++ ':' :: ']' :: after') = some (set, after') := by
  have hnames : ∀ p ∈ CharSet.asciiClasses, ')' ∉ p.1.toList := by decide
  unfold namedClass? at h
  dsimp only at h
  split at h
  case h_2 => cases h
  case h_1 behind hbehind =>
    obtain ⟨found, hfound, h⟩ := Option.map_eq_some_iff.mp h
    cases h
    let name := text.takeWhile (· != ':')
    refine ⟨name, ?_, ?_, fun after' => ?_⟩
    · rw [← hbehind]
      exact (List.prefix_iff_eq_append.mp (List.takeWhile_prefix _)).symm
    · obtain ⟨before, others, hsplit, -⟩ := List.lookup_eq_some_iff.mp hfound
      have hnone := hnames (String.ofList name, found) (by rw [hsplit]; simp [name])
      rwa [String.toList_ofList] at hnone
    · have hname : ∀ c ∈ name, (c != ':') = true := fun c hc =>
        List.mem_takeWhile_imp (p := (· != ':')) hc
      have htake : (name ++ ':' :: ']' :: after').takeWhile (· != ':') = name := by
        rw [List.takeWhile_append_of_pos hname]
        simp
      unfold namedClass?
      simp only [htake, List.drop_left, hfound, name, Option.map_some]

/-- A class is read from a text of its own, without a closing parenthesis in it. -/
theorem asciiClass?_eq_some {s t : Input} {set : CharSet} (h : asciiClass? s = some (set, t)) :
    ∃ used rest, s.rest = used ++ rest ∧ t = { s with rest := rest } ∧ ')' ∉ used ∧
      used ≠ [] ∧
      ∀ (s' : Input) (rest' : List Char), s'.rest = used ++ rest' →
        asciiClass? s' = some (set, { s' with rest := rest' }) := by
  have hstart : ∃ rest, s.rest = '[' :: ':' :: rest := by
    unfold asciiClass? at h
    split at h
    case h_1 rest hrest => exact ⟨rest, hrest⟩
    case h_2 => cases h
  obtain ⟨rest, hrest⟩ := hstart
  obtain ⟨negated, behind, hread⟩ : ∃ negated behind, caret rest = (negated, behind) :=
    ⟨_, _, rfl⟩
  rw [asciiClass?_eq hrest, hread] at h
  dsimp only at h
  obtain ⟨⟨found, after⟩, hnamed, h⟩ := Option.map_eq_some_iff.mp h
  cases h
  obtain ⟨front, hfront, hclosing, hcaret⟩ := exists_of_caret hread
  obtain ⟨name, hname, hclosing', hagain⟩ := namedClass?_eq_some hnamed
  refine ⟨'[' :: ':' :: (front ++ name ++ [':', ']']), after, ?_, rfl, ?_, List.cons_ne_nil _ _,
    fun s' rest' hrest' => ?_⟩
  · rw [hrest, hfront, hname]
    simp
  · simp [hclosing, hclosing']
  · have hrest : s'.rest = '[' :: ':' :: (front ++ (name ++ ':' :: ']' :: rest')) := by
      rw [hrest']
      simp
    have hhead : (name ++ ':' :: ']' :: rest').head? = behind.head? := by
      rw [hname]
      cases name <;> rfl
    rw [asciiClass?_eq hrest, hcaret _ hhead, hagain]
    rfl

section Range

variable {s u v t : Input} {first last : Atom} {c : Char} {rest rest' : List Char}

/-- What follows shows that the member is no start of a range. -/
def Single (v : Input) : Prop :=
  (∃ c rest, v.rest = c :: rest ∧ c ≠ '-') ∨
    (∃ rest, v.rest = '-' :: rest) ∧ ∃ c rest, v.next.rest = c :: rest ∧ (c = ']' ∨ c = '-')

theorem rangeOrMember?_single (hmember : member? s = some (first, u)) (h : Single u.blanks) :
    rangeOrMember? s = some (first.asSet, u.blanks) := by
  unfold rangeOrMember?
  rw [hmember]
  rcases h with ⟨c, rest, hrest, hc⟩ | ⟨⟨rest, hrest⟩, c, rest', hnext, rfl | rfl⟩
  · simp [hrest, hc]
  · simp [hrest, hnext]
  · simp [hrest, hnext]

/-- The range between two characters. -/
def rangeOf? : Atom → Atom → Option CharSet
  | .char a, .char b => if a ≤ b then some (.range a b) else none
  | _, _ => none

theorem rangeOrMember?_range (hmember : member? s = some (first, u))
    (hrest : u.blanks.rest = '-' :: rest) (hnext : u.blanks.next.rest = c :: rest')
    (hbracket : c ≠ ']') (hdash : c ≠ '-') :
    rangeOrMember? s = (member? u.blanks.next).bind fun read =>
      (rangeOf? first read.1).map fun set => (set, read.2) := by
  unfold rangeOrMember?
  rw [hmember]
  simp only [Option.bind_eq_bind, Option.bind_some, hrest, hnext]
  rw [if_neg hdash]
  refine congrArg _ (funext fun ⟨last, t⟩ => ?_)
  cases first <;> cases last <;> simp only [rangeOf?, Option.map_none]
  split_ifs <;> rfl

theorem rangeOrMember?_cases {set : CharSet} (h : rangeOrMember? s = some (set, t)) :
    ∃ first u, member? s = some (first, u) ∧
      ((t = u.blanks ∧ set = first.asSet ∧ Single u.blanks) ∨
        ∃ last c rest rest', u.blanks.rest = '-' :: rest ∧ u.blanks.next.rest = c :: rest' ∧
          c ≠ ']' ∧ c ≠ '-' ∧ member? u.blanks.next = some (last, t) ∧
          rangeOf? first last = some set) := by
  obtain ⟨⟨first, u⟩, hmember, hread⟩ := Option.bind_eq_some_iff.mp h
  refine ⟨first, u, hmember, ?_⟩
  dsimp only at hread
  split at hread
  case h_1 => cases hread
  case h_2 rest hrest =>
    split at hread
    case h_1 => cases hread
    case h_2 rest' hnext =>
      cases hread
      exact .inl ⟨rfl, rfl, .inr ⟨⟨rest, hrest⟩, _, rest', hnext, .inl rfl⟩⟩
    case h_3 c rest' hbracket hnext =>
      by_cases hdash : c = '-'
      · rw [if_pos hdash] at hread
        cases hread
        exact .inl ⟨rfl, rfl, .inr ⟨⟨rest, hrest⟩, c, rest', hnext, .inr hdash⟩⟩
      · rw [rangeOrMember?_range hmember hrest hnext hbracket hdash] at h
        obtain ⟨⟨last, w⟩, hlast, h⟩ := Option.bind_eq_some_iff.mp h
        obtain ⟨range, hrange, h⟩ := Option.map_eq_some_iff.mp h
        cases h
        exact .inr ⟨last, c, rest, rest', hrest, hnext, hbracket, hdash, hlast, hrange⟩
  case h_3 hnil hdash =>
    cases hread
    cases hrest : u.blanks.rest with
    | nil => exact (hnil hrest).elim
    | cons c rest =>
      refine .inl ⟨rfl, rfl, .inl ⟨c, rest, hrest, ?_⟩⟩
      rintro rfl
      exact hdash rest hrest

end Range

namespace Tails

variable {T : Tails} {s t : Input}

theorem follows_member? {atom : Atom} (h : member? s = some (atom, t)) :
    T.Follows T.SameAtom s atom t (Finds member?) := by
  unfold member? at h
  split at h
  case h_1 rest hrest =>
    obtain ⟨⟨found, u⟩, hescape, h⟩ := Option.bind_eq_some_iff.mp h
    dsimp only at h
    split at h
    case h_1 => cases h
    case h_2 hlook =>
      cases h
      refine (follows_escape? hescape).skip hrest
        fun s' back atom' t' _ hback _ hread hsame => ⟨atom', ?_, hsame⟩
      have hread := hread fun l hl => (hlook l hl).elim
      cases hsame <;> simp_all [Finds, member?]
  case h_2 c rest hslash hrest =>
    cases h
    exact follows_skip hrest fun s' back _ hback =>
      ⟨.char c, by simp_all [Finds, member?], .char c⟩
  case h_3 => cases h

theorem length_member?_lt {atom : Atom} (h : member? s = some (atom, t)) :
    t.rest.length < s.rest.length := by
  have hread := h
  unfold member? at h
  split at h
  case h_1 rest hrest =>
    obtain ⟨⟨found, u⟩, hescape, h⟩ := Option.bind_eq_some_iff.mp h
    dsimp only at h
    split at h
    case h_1 => cases h
    case h_2 hlook =>
      cases h
      have hle := (follows_escape? (T := .closing) hescape).le
      exact hle.trans_lt (Input.length_skip_lt hrest)
  case h_2 c rest hslash hrest =>
    cases h
    exact Input.length_skip_lt hrest
  case h_3 => cases h

theorem SameAtom.asSet {a b : Atom} (h : T.SameAtom a b) : T.Agree a.asSet b.asSet := by
  cases h with
  | char c => exact fun _ => rfl
  | set h => exact h
  | look l => exact fun _ => rfl

theorem follows_asciiClass? {set : CharSet} (h : asciiClass? s = some (set, t)) :
    t.rest.length < s.rest.length ∧ T.Follows (· = ·) s set t (Finds asciiClass?) := by
  obtain ⟨used, rest, hrest, rfl, hclosing, hused, hagain⟩ := asciiClass?_eq_some h
  have hpos := List.length_pos_iff.mpr hused
  have hlength := congrArg List.length hrest
  rw [List.length_append] at hlength
  refine ⟨by dsimp only; omega, ⟨used, hrest.symm⟩, fun s' hs _ => ?_⟩
  obtain ⟨rest', hrest', halike⟩ := (hrest ▸ hs.rest).of_append used hclosing
  exact ⟨set, { s' with rest := rest' }, hagain s' rest' hrest', rfl, halike, hs.flags, hs.names⟩

/-- Where there is no class, there is none in front of the other tail. -/
theorem asciiClass?_eq_none {s' : Input} (hs : T.Twins s s') (h : asciiClass? s = none) :
    asciiClass? s' = none := by
  cases hfound : asciiClass? s' with
  | none => rfl
  | some found =>
    obtain ⟨used, rest', hrest', -, hclosing, -, hagain⟩ := asciiClass?_eq_some hfound
    obtain ⟨rest, hrest, -⟩ := (hrest' ▸ hs.rest).of_append_other used hclosing
    rw [hagain s rest hrest] at h
    cases h

theorem SameAtom.rangeOf? {a a' b b' : Atom} (h : T.SameAtom a a') (h' : T.SameAtom b b') :
    rangeOf? a' b' = rangeOf? a b := by
  cases h <;> cases h' <;> rfl

/-- A member or a range is read alike, if the set goes on behind it. -/
theorem follows_rangeOrMember? {set : CharSet} (h : rangeOrMember? s = some (set, t)) :
    T.Follows T.Agree s set t fun s' set' t' => T.given.length < t.rest.length →
      T.Ahead '-' t → rangeOrMember? s' = some (set', t') := by
  obtain ⟨first, u, hfirst, h⟩ := rangeOrMember?_cases h
  have hmember := follows_member? (T := T) hfirst
  have hblanks := u.length_blanks_le
  rcases h with ⟨rfl, rfl, hsingle⟩ |
    ⟨last, c, rest, rest', hrest, hnext, hbracket, hdash, hlast, hrange⟩
  · refine ⟨u.blanks_suffix.trans hmember.suffix, fun s' hs hin => ?_⟩
    obtain ⟨first', u', hread, hsame, hu⟩ := hmember.found s' hs (hin.trans hblanks)
    have hu' := hu.blanks hin
    refine ⟨first'.asSet, u'.blanks, fun hlt hahead => rangeOrMember?_single hread ?_, hsame.asSet,
      hu'⟩
    rcases hsingle with ⟨c, rest, hrest, hc⟩ | ⟨⟨rest, hrest⟩, c, rest', hnext, hc⟩
    · obtain ⟨back, hback⟩ := hu'.cons_of_lt hrest hlt
      exact .inl ⟨c, back, hback, hc⟩
    · obtain ⟨back, hback⟩ := hu'.cons_of_lt hrest hlt
      have hlt' := hahead rest hrest
      obtain ⟨back', hback'⟩ := (hu'.next hlt'.le).cons_of_lt hnext hlt'
      exact .inr ⟨⟨back, hback⟩, c, back', hback', hc⟩
  · have hmember' := follows_member? (T := T) hlast
    have hle := Input.length_next_lt hrest
    have hlt := length_member?_lt hlast
    have hsuffix := (hmember'.suffix.trans u.blanks.next_suffix).trans u.blanks_suffix
    refine ⟨hsuffix.trans hmember.suffix, fun s' hs hin => ?_⟩
    obtain ⟨first', u', hread, hsame, hu⟩ := hmember.found s' hs (by omega)
    have hu' := hu.blanks (by omega)
    have hnext' := hu'.next (by omega)
    obtain ⟨back, hback⟩ := hu'.cons_of_lt hrest (by omega)
    obtain ⟨back', hback'⟩ := hnext'.cons_of_lt hnext (by omega)
    obtain ⟨last', t', hread', hsame', ht⟩ := hmember'.found _ hnext' hin
    refine ⟨set, t', fun _ _ => ?_, fun _ => rfl, ht⟩
    have hread' : member? u'.blanks.next = some (last', t') := hread'
    rw [rangeOrMember?_range hread hback hback' hbracket hdash, hread', Option.bind_some,
      hsame.rangeOf? hsame', hrange]
    rfl

end Tails

/-- The members with those of the set. -/
def SetSoFar.add (b : SetSoFar) (set : CharSet) : SetSoFar :=
  { b with members := b.members.union set }

/-- One step through the members of a set: the members so far, and what is left to read. -/
def memberStep? (nested : Input → Option (CharSet × Input)) (b : SetSoFar) (s : Input) :
    Option (SetSoFar × Input) :=
  let add (read : Option (CharSet × Input)) : Option (SetSoFar × Input) :=
    read.map fun read => (b.add read.1, read.2)
  let operate (op : SetOp) : Option (SetSoFar × Input) :=
    some (⟨some (b.whole s.flags, op), .empty⟩, s.skip 2)
  match s.rest with
  | [] => none
  | ']' :: _ => none
  | '[' :: _ => add ((asciiClass? s).or (nested (s.skip 1)))
  | '&' :: '&' :: _ => operate .inter
  | '-' :: '-' :: _ => operate .diff
  | '~' :: '~' :: _ => operate .symmDiff
  | _ => add (rangeOrMember? s)

section Members

variable {nested : Input → Option (CharSet × Input)} {fuel : Nat} {b : SetSoFar} {s : Input}
  {rest : List Char}

theorem members?_end (hrest : s.blanks.rest = ']' :: rest) :
    members? nested (fuel + 1) b s = some (b.whole s.blanks.flags, s.blanks.skip 1) := by
  simp [members?, hrest]

theorem members?_step (hrest : ∀ rest, s.blanks.rest ≠ ']' :: rest) :
    members? nested (fuel + 1) b s =
      (memberStep? nested b s.blanks).bind fun read => members? nested fuel read.1 read.2 := by
  have hadd (read : Option (CharSet × Input)) :
      ((read.map fun read => (b.add read.1, read.2)).bind fun read =>
        members? nested fuel read.1 read.2) =
      read.bind fun read =>
        members? nested fuel { b with members := b.members.union read.1 } read.2 := by
    cases read <;> rfl
  conv_lhs => unfold members?
  fun_cases memberStep? nested b s.blanks
  case case2 tail heq => exact absurd heq (hrest tail)
  all_goals simp_all only [Option.bind_none]
  case case3 | case7 => exact (hadd _).symm
  all_goals rfl

end Members

namespace Tails

variable {T : Tails} {s t : Input} {nested : Input → Option (CharSet × Input)}
  {b b' b₂ : SetSoFar} {set : CharSet}

theorem follows_classOrNested
    (hnested : ∀ v a w, nested v = some (a, w) → T.Follows T.Agree v a w (FindsAll bracket?))
    (h : (asciiClass? s).or (nested (s.skip 1)) = some (set, t)) {rest : List Char}
    (hrest : s.rest = '[' :: rest) :
    T.Follows T.Agree s set t fun s' set' t' => ∀ depth, s'.rest.length ≤ depth →
      (asciiClass? s').or (bracket? depth (s'.skip 1)) = some (set', t') := by
  rcases Option.or_eq_some_iff.mp h with h | ⟨hnone, h⟩
  · refine (follows_asciiClass? h).2.imp fun s' set' t' _ _ hread hset =>
      ⟨set', fun depth _ => ?_, fun _ => hset⟩
    have hread : asciiClass? s' = some (set', t') := hread
    rw [hread, Option.some_or]
  · refine (hnested _ _ _ h).skip hrest fun s' back set' t' hs hback _ hread hset =>
      ⟨set', fun depth hdepth => ?_, hset⟩
    rw [asciiClass?_eq_none hs hnone, Option.none_or]
    exact hread depth ((Input.length_skip_lt hback).trans_le hdepth)

theorem Agree.whole {f f' : Flags} (hf : T.SameFlags f f') (h : T.Agree b b') :
    T.Agree (b.whole f) (b'.whole f') := by
  intro hexact
  obtain rfl := h hexact
  have hcase (set : CharSet) : Regex.withCase f' set = Regex.withCase f set := by
    unfold Regex.withCase
    rw [hf.caseless hexact, hf.ascii]
  unfold SetSoFar.whole SetOp.apply
  simp only [hcase]

theorem Agree.add {a a' : CharSet} (h : T.Agree b b') (ha : T.Agree a a') :
    T.Agree (b.add a) (b'.add a') := by
  intro hexact
  rw [h hexact, ha hexact]

theorem Agree.operate {f f' : Flags} (hf : T.SameFlags f f') (h : T.Agree b b') (op : SetOp) :
    T.Agree (⟨some (b.whole f, op), .empty⟩ : SetSoFar) ⟨some (b'.whole f', op), .empty⟩ := by
  intro hexact
  rw [Agree.whole hf h hexact]

theorem follows_memberStep?
    (hnested : ∀ v a w, nested v = some (a, w) → T.Follows T.Agree v a w (FindsAll bracket?))
    (hb : T.Agree b b') (h : memberStep? nested b s = some (b₂, t)) :
    T.Follows T.Agree s b₂ t fun s' c t' => T.given.length < t.rest.length → T.Ahead '-' t →
      ∀ depth, s'.rest.length ≤ depth → memberStep? (bracket? depth) b' s' = some (c, t') := by
  unfold memberStep? at h
  dsimp only at h
  split at h
  case h_1 => cases h
  case h_2 => cases h
  case h_3 rest hrest =>
    obtain ⟨⟨set, u⟩, hread, h⟩ := Option.map_eq_some_iff.mp h
    cases h
    refine (follows_classOrNested hnested hread hrest).imp
      fun s' set' t' hs _ hread hset => ⟨b'.add set', fun _ _ depth hdepth => ?_, hb.add hset⟩
    obtain ⟨back, hback, -⟩ := (hrest ▸ hs.rest).tail_of_ne (by decide)
    simp [memberStep?, hback, hread depth hdepth]
  case h_4 rest hrest =>
    cases h
    refine ⟨s.skip_suffix 2, fun s' hs hin => ?_⟩
    obtain ⟨back, hback, -⟩ := (hrest ▸ hs.rest).of_append ['&', '&'] (by decide)
    have hback : s'.rest = '&' :: '&' :: back := hback
    exact ⟨_, s'.skip 2, fun _ _ _ _ => by simp [memberStep?, hback], hb.operate hs.flags .inter,
      hs.skip hin⟩
  case h_5 rest hrest =>
    cases h
    refine ⟨s.skip_suffix 2, fun s' hs hin => ?_⟩
    obtain ⟨back, hback, -⟩ := (hrest ▸ hs.rest).of_append ['-', '-'] (by decide)
    have hback : s'.rest = '-' :: '-' :: back := hback
    exact ⟨_, s'.skip 2, fun _ _ _ _ => by simp [memberStep?, hback], hb.operate hs.flags .diff,
      hs.skip hin⟩
  case h_6 rest hrest =>
    cases h
    refine ⟨s.skip_suffix 2, fun s' hs hin => ?_⟩
    obtain ⟨back, hback, -⟩ := (hrest ▸ hs.rest).of_append ['~', '~'] (by decide)
    have hback : s'.rest = '~' :: '~' :: back := hback
    exact ⟨_, s'.skip 2, fun _ _ _ _ => by simp [memberStep?, hback], hb.operate hs.flags .symmDiff,
      hs.skip hin⟩
  case h_7 hnil hclose hopen hinter hdiff hsymm =>
    obtain ⟨⟨set, u⟩, hread, h⟩ := Option.map_eq_some_iff.mp h
    cases h
    refine (follows_rangeOrMember? hread).imp fun s' set' t' hs _ hread hset =>
      ⟨b'.add set', fun hlt hahead depth hdepth => ?_, hb.add hset⟩
    have hread := hread hlt hahead
    unfold memberStep?
    dsimp only
    split
    case h_1 hnil' => simp [rangeOrMember?, member?, hnil'] at hread
    case h_2 heq => exact absurd heq (hs.rest.ne_append [']'] (by decide) hclose _)
    case h_3 heq => exact absurd heq (hs.rest.ne_append ['['] (by decide) hopen _)
    case h_4 heq => exact absurd heq (hs.rest.ne_append ['&', '&'] (by decide) hinter _)
    case h_5 heq => exact absurd heq (hs.rest.ne_append ['-', '-'] (by decide) hdiff _)
    case h_6 heq => exact absurd heq (hs.rest.ne_append ['~', '~'] (by decide) hsymm _)
    case h_7 => rw [hread, Option.map_some]

end Tails

section Lengths

variable {nested : Input → Option (CharSet × Input)} {fuel : Nat} {b b₂ : SetSoFar} {s t : Input}
  {set : CharSet}

theorem length_rangeOrMember?_lt (h : rangeOrMember? s = some (set, t)) :
    t.rest.length < s.rest.length := by
  obtain ⟨first, u, hfirst, h⟩ := rangeOrMember?_cases h
  have hlt := Tails.length_member?_lt hfirst
  have hblanks := u.length_blanks_le
  rcases h with ⟨rfl, -, -⟩ | ⟨last, c, rest, rest', hrest, -, -, -, hlast, -⟩
  · omega
  · have hlt' := Tails.length_member?_lt hlast
    have hnext := Input.length_next_lt hrest
    omega

theorem length_memberStep?_lt (hnested : ∀ v a w, nested v = some (a, w) →
      w.rest.length ≤ v.rest.length) (h : memberStep? nested b s = some (b₂, t)) :
    t.rest.length < s.rest.length := by
  unfold memberStep? at h
  dsimp only at h
  split at h
  case h_1 | h_2 => cases h
  case h_3 rest hrest =>
    obtain ⟨⟨set, u⟩, hread, h⟩ := Option.map_eq_some_iff.mp h
    cases h
    rcases Option.or_eq_some_iff.mp hread with hread | ⟨-, hread⟩
    · exact (Tails.follows_asciiClass? (T := .closing) hread).1
    · exact (hnested _ _ _ hread).trans_lt
        (Input.length_skip_lt hrest)
  case h_4 rest hrest | h_5 rest hrest | h_6 rest hrest =>
    cases h
    exact Input.length_skip_lt hrest
  case h_7 =>
    obtain ⟨⟨set, u⟩, hread, h⟩ := Option.map_eq_some_iff.mp h
    cases h
    exact length_rangeOrMember?_lt hread

theorem length_members?_lt (hnested : ∀ v a w, nested v = some (a, w) →
      w.rest.length ≤ v.rest.length) (h : members? nested fuel b s = some (set, t)) :
    t.rest.length < s.rest.length := by
  induction fuel generalizing b s with
  | zero => cases h
  | succ fuel ih =>
    have hblanks := s.length_blanks_le
    by_cases hclose : ∃ rest, s.blanks.rest = ']' :: rest
    · obtain ⟨rest, hrest⟩ := hclose
      rw [members?_end hrest] at h
      cases h
      exact (Input.length_skip_lt hrest).trans_le hblanks
    · rw [members?_step fun rest hrest => hclose ⟨rest, hrest⟩] at h
      obtain ⟨⟨b₂, u⟩, hstep, h⟩ := Option.bind_eq_some_iff.mp h
      have hlt := length_memberStep?_lt hnested hstep
      have hlt' := ih h
      dsimp only at hlt'
      omega

end Lengths

namespace Tails

variable {T : Tails} {s t : Input} {nested : Input → Option (CharSet × Input)}
  {b b' : SetSoFar} {set : CharSet} {fuel : Nat}

/-- A dash is a member or part of an operation, so that the rest of the set is behind it. -/
theorem ahead_of_members? (hnested : ∀ v a w, nested v = some (a, w) →
      w.rest.length ≤ v.rest.length) (h : members? nested fuel b s = some (set, t))
    (hin : T.given.length ≤ t.rest.length) : T.Ahead '-' s := by
  intro rest hrest
  cases fuel with
  | zero => cases h
  | succ fuel =>
    have hblanks := Input.blanks_of_cons hrest (by decide) (by decide)
    rw [members?_step (by simp [hblanks, hrest]), hblanks] at h
    obtain ⟨⟨b₂, u⟩, hstep, h⟩ := Option.bind_eq_some_iff.mp h
    have hlt := length_members?_lt hnested h
    dsimp only at hlt
    suffices hle : u.rest.length ≤ s.next.rest.length by omega
    unfold memberStep? at hstep
    dsimp only at hstep
    split at hstep
    case h_1 heq => rw [hrest] at heq; cases heq
    case h_2 heq | h_3 heq | h_4 heq | h_6 heq =>
      rw [hrest] at heq
      cases heq
    case h_5 tail heq =>
      cases hstep
      have hskip : (s.skip 1).rest = '-' :: tail := by simp [Input.skip, heq]
      rw [Input.next, Input.blanks_of_cons hskip (by decide) (by decide), hskip]
      simp [Input.skip, heq]
    case h_7 =>
      obtain ⟨⟨set, v⟩, hread, h⟩ := Option.map_eq_some_iff.mp hstep
      cases h
      obtain ⟨first, w, hfirst, hread⟩ := rangeOrMember?_cases hread
      have hw : w = s.skip 1 := by
        unfold member? at hfirst
        rw [hrest] at hfirst
        cases hfirst
        rfl
      subst hw
      rcases hread with ⟨rfl, -, -⟩ | ⟨last, c, rest, rest', hdash, -, -, -, hlast, -⟩
      · exact Nat.le_refl _
      · exact ((length_member?_lt hlast).trans (Input.length_next_lt hdash)).le

theorem follows_members?
    (hnested : ∀ v a w, nested v = some (a, w) → T.Follows T.Agree v a w (FindsAll bracket?))
    (hb : T.Agree b b') (h : members? nested fuel b s = some (set, t)) :
    T.Follows T.Agree s set t fun s' set' t' => ∀ depth fuel, s'.rest.length ≤ depth →
      s'.rest.length < fuel → members? (bracket? depth) fuel b' s' = some (set', t') := by
  have hlengths (v : Input) (a : CharSet) (w : Input) (hread : nested v = some (a, w)) :
      w.rest.length ≤ v.rest.length := (hnested v a w hread).le
  induction fuel generalizing b b' s with
  | zero => cases h
  | succ fuel ih =>
    have hblanks := s.length_blanks_le
    by_cases hclose : ∃ rest, s.blanks.rest = ']' :: rest
    · obtain ⟨rest, hrest⟩ := hclose
      rw [members?_end hrest] at h
      cases h
      have hend : T.Follows T.Agree s.blanks (b.whole s.blanks.flags) (s.blanks.skip 1)
          fun v' set' t' => (∃ back, v'.rest = ']' :: back) ∧ set' = b'.whole v'.flags ∧
            t' = v'.skip 1 :=
        follows_skip hrest fun v' back hv hback =>
          ⟨_, ⟨⟨back, hback⟩, rfl, rfl⟩, Agree.whole hv.flags hb⟩
      refine hend.blanks fun s' set' t' _ _ hread hset => ⟨set', fun depth fuel _ hfuel => ?_, hset⟩
      obtain ⟨⟨back, hback⟩, rfl, rfl⟩ := hread
      obtain ⟨fuel, rfl⟩ := Nat.exists_eq_succ_of_ne_zero (Nat.ne_zero_of_lt hfuel)
      exact members?_end hback
    · have hclose' (rest : List Char) : s.blanks.rest ≠ ']' :: rest := fun hrest =>
        hclose ⟨rest, hrest⟩
      rw [members?_step hclose'] at h
      obtain ⟨⟨b₂, u⟩, hstep, h⟩ := Option.bind_eq_some_iff.mp h
      dsimp only at h
      have hlt := length_memberStep?_lt hlengths hstep
      have hlt' := length_members?_lt hlengths h
      have hreadStep := follows_memberStep? hnested hb hstep
      refine ⟨((ih (fun _ => rfl) h).suffix.trans hreadStep.suffix).trans s.blanks_suffix,
        fun s' hs hin => ?_⟩
      have hahead := ahead_of_members? hlengths h hin
      have hv := hs.blanks (by omega)
      obtain ⟨c, u', hread, hc, hu⟩ := hreadStep.found _ hv (by omega)
      obtain ⟨set', t', hread', hset, ht⟩ := (ih hc h).found _ hu hin
      refine ⟨set', t', fun depth fuel hdepth hfuel => ?_, hset, ht⟩
      obtain ⟨fuel, rfl⟩ := Nat.exists_eq_succ_of_ne_zero (Nat.ne_zero_of_lt hfuel)
      have hlength := hv.rest.length
      have hlength' := hu.rest.length
      have hblanks' := s'.length_blanks_le
      rw [members?_step (hv.rest.ne_append [']'] (by decide) hclose'),
        hread (by omega) hahead depth (hblanks'.trans hdepth), Option.bind_some]
      exact hread' depth fuel (by omega) (by omega)

end Tails

/-- Past the caret of a complement. -/
def negation (s : Input) : Bool × Input :=
  match s.rest with
  | '^' :: _ => (true, s.next)
  | _ => (false, s)

/-- The first members of a set: dashes, or a closing bracket. -/
def firstMembers (s : Input) : CharSet × Input :=
  let (set, s') := leadingDashes s.rest.length .empty s
  match s'.rest with
  | ']' :: _ =>
    if s'.rest.length = s.rest.length then (CharSet.single ']', s'.next) else (set, s')
  | _ => (set, s')

theorem bracket?_succ (fuel : Nat) (s : Input) :
    bracket? (fuel + 1) s =
      let (negated, s) := negation s.blanks
      let (set, s) := firstMembers s
      (members? (bracket? fuel) (s.rest.length + 1) ⟨none, set⟩ s).bind fun read =>
        (negatedIf negated read.2.flags (withCase read.2.flags read.1)).bind fun set =>
          some (set, read.2) := by
  conv_lhs => unfold bracket?
  rfl

namespace Tails

variable {T : Tails} {s t : Input} {set : CharSet} {fuel : Nat}

/-- The dashes in front of a set are read alike. -/
theorem follows_leadingDashes {set₀ : CharSet} (h : leadingDashes fuel set₀ s = (set, t))
    (hfuel : s.rest.length ≤ fuel) :
    T.Follows (· = ·) s set t fun s' set' t' => ∀ fuel, s'.rest.length ≤ fuel →
      leadingDashes fuel set₀ s' = (set', t') := by
  induction fuel generalizing set₀ s with
  | zero =>
    cases h
    refine ⟨List.suffix_rfl, fun s' hs hin => ?_⟩
    have hpos := T.given_pos
    omega
  | succ fuel ih =>
    unfold leadingDashes at h
    split at h
    case h_1 rest hrest =>
      have hlt := Input.length_next_lt hrest
      refine (ih h (by omega)).next hrest fun s' back set' t' _ hback _ hread hset =>
        ⟨set', fun fuel hfuel => ?_, hset⟩
      have hlt' := Input.length_next_lt hback
      obtain ⟨fuel, rfl⟩ := Nat.exists_eq_succ_of_ne_zero (by omega : fuel ≠ 0)
      unfold leadingDashes
      simp only [hback]
      exact hread fuel (by omega)
    case h_2 hnot =>
      cases h
      refine follows_self fun s' hs => ⟨set, fun fuel _ => ?_, rfl⟩
      cases fuel with
      | zero => rfl
      | succ fuel =>
        unfold leadingDashes
        split
        case h_1 back heq => exact absurd heq (hs.rest.ne_cons (by decide) hnot back)
        case h_2 => rfl

theorem follows_negation {negated : Bool} (h : negation s = (negated, t)) :
    T.Follows (· = ·) s negated t fun s' a t' => negation s' = (a, t') := by
  unfold negation at h
  split at h
  case h_1 rest hrest =>
    cases h
    refine follows_next hrest fun s' back _ hback => ⟨true, ?_, rfl⟩
    unfold negation
    simp only [hback]
  case h_2 hnot =>
    cases h
    refine follows_self fun s' hs => ⟨false, ?_, rfl⟩
    unfold negation
    split
    case h_1 back heq => exact absurd heq (hs.rest.ne_cons (by decide) hnot back)
    case h_2 => rfl

theorem follows_firstMembers (h : firstMembers s = (set, t)) :
    T.Follows (· = ·) s set t fun s' a t' => firstMembers s' = (a, t') := by
  obtain ⟨dashes, u, hdashes⟩ : ∃ dashes u, leadingDashes s.rest.length .empty s = (dashes, u) :=
    ⟨_, _, rfl⟩
  have hread := follows_leadingDashes (T := T) hdashes (Nat.le_refl _)
  have hle := hread.le
  unfold firstMembers at h
  simp only [hdashes] at h
  split at h
  case h_1 rest hrest =>
    split_ifs at h with hlength
    · cases h
      have hlt := Input.length_next_lt hrest
      refine ⟨u.next_suffix.trans hread.suffix, fun s' hs hin => ?_⟩
      obtain ⟨_, u', hread', rfl, hu⟩ := hread.found s' hs (by omega)
      obtain ⟨back, hback, -⟩ := (hrest ▸ hu.rest).tail_of_ne (by decide)
      have hlengths := hs.rest.length
      have hlengths' := hu.rest.length
      have hcons := congrArg List.length hback
      refine ⟨.single ']', u'.next, ?_, rfl, hu.next hin⟩
      unfold firstMembers
      simp only [hread' _ (Nat.le_refl _), hback]
      rw [if_pos (by omega)]
    · cases h
      refine hread.imp fun s' set' u' hs hu hread' hset => ⟨set', ?_, hset⟩
      obtain ⟨back, hback, -⟩ := (hrest ▸ hu.rest).tail_of_ne (by decide)
      have hlengths := hs.rest.length
      have hlengths' := hu.rest.length
      have hcons := congrArg List.length hback
      unfold firstMembers
      simp only [hread' _ (Nat.le_refl _), hback]
      rw [if_neg (by omega)]
  case h_2 hnot =>
    cases h
    refine hread.imp fun s' set' u' hs hu hread' hset => ⟨set', ?_, hset⟩
    unfold firstMembers
    simp only [hread' _ (Nat.le_refl _)]
    split
    case h_1 back heq => exact absurd heq (hu.rest.ne_cons (by decide) hnot back)
    case h_2 => rfl

theorem follows_bracket? (h : bracket? fuel s = some (set, t)) :
    T.Follows T.Agree s set t (FindsAll bracket?) := by
  induction fuel generalizing s set t with
  | zero => cases h
  | succ fuel ih =>
    rw [bracket?_succ] at h
    obtain ⟨negated, v, hnegation⟩ : ∃ negated v, negation s.blanks = (negated, v) := ⟨_, _, rfl⟩
    obtain ⟨first, w, hfirst⟩ : ∃ first w, firstMembers v = (first, w) := ⟨_, _, rfl⟩
    simp only [hnegation, hfirst] at h
    obtain ⟨⟨members, u⟩, hmembers, h⟩ := Option.bind_eq_some_iff.mp h
    obtain ⟨whole, hwhole, h⟩ := Option.bind_eq_some_iff.mp h
    cases h
    have hreadNegation := follows_negation (T := T) hnegation
    have hreadFirst := follows_firstMembers (T := T) hfirst
    have hreadMembers := follows_members? (T := T) (fun _ _ _ => ih) (fun _ => rfl) hmembers
    have hblanks := s.length_blanks_le
    have hle := hreadNegation.le
    have hle' := hreadFirst.le
    have hle'' := hreadMembers.le
    have hsuffix := (hreadMembers.suffix.trans hreadFirst.suffix).trans hreadNegation.suffix
    refine ⟨hsuffix.trans s.blanks_suffix, fun s' hs hin => ?_⟩
    dsimp only at hin
    obtain ⟨_, v', hnegation', rfl, hv⟩ :=
      hreadNegation.found _ (hs.blanks (by omega)) (by omega)
    obtain ⟨_, w', hfirst', rfl, hw⟩ := hreadFirst.found v' hv (by omega)
    obtain ⟨members', u', hmembers', hagree, hu⟩ := hreadMembers.found w' hw hin
    obtain ⟨whole', hwhole', hagree'⟩ :=
      Agree.negatedIf hu.flags (Agree.withCase hu.flags hagree) hwhole
    refine ⟨whole', u', findsAll_of_succ fun fuel hfuel => ?_, hagree', hu⟩
    have hlengths := hs.rest.length
    have hlengths' := hw.rest.length
    rw [bracket?_succ]
    simp only [hnegation', hfirst', hmembers' fuel (w'.rest.length + 1) (by omega)
      (Nat.lt_succ_self _), Option.bind_some, hwhole']

end Tails

end MetastoreFederation.Regex
