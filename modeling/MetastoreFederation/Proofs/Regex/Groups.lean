import MetastoreFederation.Proofs.Regex.Items

/-!
Groups in texts that start alike: flags, names, and the expression inside, of which it is assumed
that it is read alike.
-/

set_option autoImplicit false
set_option relaxedAutoImplicit false

namespace MetastoreFederation.Regex

/-- What a character sets among the flags of a group: whether the next ones are set or taken back,
and the flags so far. -/
def setFlag? (on : Bool) (c : Char) (f : Flags) : Option (Bool × Flags) :=
  match c with
  | '-' => some (false, f)
  | 'i' => some (on, { f with caseless := on })
  | 'm' => some (on, { f with multiline := on })
  | 's' => some (on, { f with dotAll := on })
  | 'R' => some (on, { f with crlf := on })
  | 'x' => some (on, { f with spaced := on })
  | 'u' => some (on, { f with ascii := !on })
  | 'U' => some (on, f)
  | _ => none

theorem flags?_cons {fuel : Nat} {on : Bool} {seen rest : List Char} {f : Flags} {c : Char}
    (hend : ¬(c = ':' ∨ c = ')')) (hseen : c ∉ seen) :
    flags? (fuel + 1) on seen f (c :: rest) =
      (setFlag? on c f).bind fun set => flags? fuel set.1 (c :: seen) set.2 rest := by
  conv_lhs => unfold flags?
  unfold setFlag?
  dsimp only
  rw [if_neg hend, if_neg hseen]
  split
  case h_9 => simp_all
  all_goals rfl

namespace Tails

variable {T : Tails} {s s' t : Input} {fuel : Nat} {rest rest' left : List Char}

section Flags

variable {f f' g : Flags} {on on' : Bool} {seen : List Char} {c : Char}

theorem SameFlags.setFlag? (hf : T.SameFlags f f') (h : setFlag? on c f = some (on', g)) :
    ∃ g', Regex.setFlag? on c f' = some (on', g') ∧ T.SameFlags g g' := by
  unfold Regex.setFlag? at h ⊢
  split at h
  case h_9 => cases h
  case h_2 =>
    cases h
    exact ⟨_, rfl, { hf with caseless := fun _ => rfl }⟩
  case h_3 =>
    cases h
    exact ⟨_, rfl, { hf with multiline := rfl }⟩
  case h_4 =>
    cases h
    exact ⟨_, rfl, { hf with dotAll := rfl }⟩
  case h_5 =>
    cases h
    exact ⟨_, rfl, { hf with crlf := rfl }⟩
  case h_6 =>
    cases h
    exact ⟨_, rfl, { hf with spaced := rfl }⟩
  case h_7 =>
    cases h
    exact ⟨_, rfl, { hf with ascii := rfl }⟩
  case h_1 | h_8 =>
    cases h
    exact ⟨f', rfl, hf⟩

/-- The flags of a group are set alike. -/
theorem flags?_alike (h : flags? fuel on seen f rest = some (g, left)) :
    left <:+ rest ∧ ∀ rest' f', T.Alike rest rest' → T.SameFlags f f' →
      T.given.length < left.length → ∃ g' left',
        (∀ fuel, rest'.length < fuel → flags? fuel on seen f' rest' = some (g', left')) ∧
          T.SameFlags g g' ∧ T.Alike left left' := by
  induction fuel generalizing on seen f rest with
  | zero => cases h
  | succ fuel ih =>
    cases rest with
    | nil => cases h
    | cons c rest =>
      by_cases hend : c = ':' ∨ c = ')'
      · unfold flags? at h
        dsimp only at h
        rw [if_pos hend] at h
        split_ifs at h with hdash
        cases h
        refine ⟨List.suffix_rfl, fun rest' f' hrest hf hin => ?_⟩
        obtain ⟨back, rfl, -⟩ := hrest.tail (Nat.le_of_lt_succ hin)
        refine ⟨f', c :: back, fun fuel hfuel => ?_, hf, hrest⟩
        obtain ⟨fuel, rfl⟩ := Nat.exists_eq_succ_of_ne_zero (Nat.ne_zero_of_lt hfuel)
        unfold flags?
        dsimp only
        rw [if_pos hend, if_neg hdash]
      · have hseen : c ∉ seen := by
          intro hseen
          unfold flags? at h
          dsimp only at h
          rw [if_neg hend, if_pos hseen] at h
          cases h
        rw [flags?_cons hend hseen] at h
        obtain ⟨⟨on', f₂⟩, hset, h⟩ := Option.bind_eq_some_iff.mp h
        obtain ⟨hsuffix, hagain⟩ := ih h
        refine ⟨hsuffix.trans (List.suffix_cons c rest), fun rest' f' hrest hf hin => ?_⟩
        obtain ⟨back, rfl, hback⟩ := hrest.tail_of_ne fun hc => hend (.inr hc)
        obtain ⟨f₂', hset', hf₂⟩ := hf.setFlag? hset
        obtain ⟨g', left', hread, hg, hleft⟩ := hagain back f₂' hback hf₂ hin
        refine ⟨g', left', fun fuel hfuel => ?_, hg, hleft⟩
        obtain ⟨fuel, rfl⟩ := Nat.exists_eq_succ_of_ne_zero (Nat.ne_zero_of_lt hfuel)
        rw [Nat.succ_eq_add_one, flags?_cons hend hseen, hset', Option.bind_some]
        exact hread fuel (Nat.lt_of_succ_lt_succ hfuel)

end Flags

section Names

theorem follows_groupName? (h : groupName? s = some t) :
    T.Follows (· = ·) s () t fun s' _ t' => groupName? s' = some t' := by
  unfold groupName? at h
  dsimp only at h
  split at h
  case h_1 rest c cs hrest hname =>
    split_ifs at h with hchars
    cases h
    have hlengths := length_takeWhile_add (· != '>') s.rest
    have hdrop := congrArg List.length hrest
    rw [List.length_drop, List.length_cons] at hdrop
    refine ⟨tail_suffix hrest (List.drop_suffix _ _), fun s' hs hin => ?_⟩
    dsimp only at hin
    have htake := (hs.rest.while_of_lt (p := (· != '>')) (by omega)).1
    obtain ⟨back, hback, halike⟩ := (hrest ▸ hs.rest.drop
      (n := (s.rest.takeWhile (· != '>')).length) (by rw [List.length_drop]; omega)).tail_of_ne
        (by decide)
    refine ⟨(), { s' with rest := back, names := s'.rest.takeWhile (· != '>') :: s'.names }, ?_,
      rfl, halike, hs.flags, ?_⟩
    · rw [hname] at htake hback hchars
      unfold groupName?
      simp only [htake, hback, hs.names]
      rw [if_pos hchars]
    · simp only [htake, hs.names]
  case h_2 => cases h

end Names

section Items

/-- Items of one kind that agree. -/
structure SameItem (T : Tails) (a b : Option Expr) : Prop where
  isSome : b.isSome = a.isSome
  agree : T.Agree a b

theorem Alike.isPrefixOf (h : T.Alike rest rest') {start : List Char} (hstart : ')' ∉ start) :
    start.isPrefixOf rest' = start.isPrefixOf rest := by
  rw [Bool.eq_iff_iff, List.isPrefixOf_iff_prefix, List.isPrefixOf_iff_prefix]
  constructor
  · rintro ⟨back, rfl⟩
    obtain ⟨front, rfl, -⟩ := h.of_append_other start hstart
    exact List.prefix_append _ _
  · rintro ⟨back, rfl⟩
    obtain ⟨front, rfl, -⟩ := h.of_append start hstart
    exact List.prefix_append _ _

end Items

end Tails

/-- What starts a group that looks beyond the match. -/
def beyond : List (List Char) := [['?', '='], ['?', '!'], ['?', '<', '='], ['?', '<', '!']]

/-- Reads the start of a group: whether an expression follows, and where. -/
def groupStart? (s : Input) : Option (Bool × Input) :=
  if beyond.any fun start => start.isPrefixOf s.rest then none
  else
    match s.rest with
    | '?' :: '<' :: _ => (groupName? (s.skip 2)).map fun v => (true, v)
    | '?' :: 'P' :: '<' :: _ => (groupName? (s.skip 3)).map fun v => (true, v)
    | '?' :: rest =>
      (flags? (rest.length + 1) true [] s.flags rest).bind fun read =>
        let v : Input := { s with rest := read.2.drop 1, flags := read.1 }
        if read.2.head? = some ':' then some (true, v)
        else if read.2.length = rest.length then none
        else some (false, v)
    | _ => some (true, s)

theorem group?_eq (body : Input → Option (Expr × Input)) (s : Input) :
    group? body s = (groupStart? s).bind fun start =>
      if start.1 then
        (body start.2).bind fun read => some (some read.1, { read.2 with flags := s.flags })
      else some (none, start.2) := by
  unfold group? groupStart? beyond
  dsimp only
  split
  · rfl
  · split
    case h_1 rest hrest | h_2 rest hrest =>
      simp only [hrest, Option.bind_map]
      rfl
    case h_3 rest _ _ hrest =>
      simp only [hrest, Option.bind_assoc]
      refine congrArg _ (funext fun ⟨flags, left⟩ => ?_)
      dsimp only
      split_ifs <;> rfl
    case h_4 hnamed hangle hquestion =>
      split
      case h_1 rest hrest | h_2 rest hrest | h_3 rest _ _ hrest => exact (hquestion _ hrest).elim
      case h_4 => rfl

namespace Tails

variable {T : Tails} {s t : Input} {expression : Bool}

theorem follows_groupStart? (h : groupStart? s = some (expression, t)) :
    T.Follows (· = ·) s expression t (Finds groupStart?) := by
  have hbeyond (s' : Input) (hs : T.Twins s s') :
      beyond.any (fun start => start.isPrefixOf s'.rest) =
        beyond.any fun start => start.isPrefixOf s.rest := by
    simp only [beyond, List.any_cons, List.any_nil]
    rw [hs.rest.isPrefixOf (by decide), hs.rest.isPrefixOf (by decide),
      hs.rest.isPrefixOf (by decide), hs.rest.isPrefixOf (by decide)]
  unfold groupStart? at h
  split_ifs at h with hsome
  split at h
  case h_1 rest hrest =>
    obtain ⟨v, hname, h⟩ := Option.map_eq_some_iff.mp h
    cases h
    have hread := follows_groupName? (T := T) hname
    refine ⟨hread.suffix.trans (s.skip_suffix 2), fun s' hs hin => ?_⟩
    obtain ⟨back, hstart, -⟩ := (hrest ▸ hs.rest).of_append ['?', '<'] (by decide)
    have hback : s'.rest = '?' :: '<' :: back := hstart
    obtain ⟨_, v', hread', -, hv⟩ := hread.found _ (hs.skip (hin.trans hread.le)) hin
    refine ⟨true, v', ?_, rfl, hv⟩
    unfold Finds groupStart?
    rw [hbeyond s' hs, if_neg hsome]
    simp only [hback, hread']
    rfl
  case h_2 rest hrest =>
    obtain ⟨v, hname, h⟩ := Option.map_eq_some_iff.mp h
    cases h
    have hread := follows_groupName? (T := T) hname
    refine ⟨hread.suffix.trans (s.skip_suffix 3), fun s' hs hin => ?_⟩
    obtain ⟨back, hback, -⟩ := (hrest ▸ hs.rest).of_append ['?', 'P', '<'] (by decide)
    have hback : s'.rest = '?' :: 'P' :: '<' :: back := hback
    obtain ⟨_, v', hread', -, hv⟩ := hread.found _ (hs.skip (hin.trans hread.le)) hin
    refine ⟨true, v', ?_, rfl, hv⟩
    unfold Finds groupStart?
    rw [hbeyond s' hs, if_neg hsome]
    simp only [hback, hread']
    rfl
  case h_3 rest hangle hnamed hrest =>
    obtain ⟨⟨flags, left⟩, hflags, h⟩ := Option.bind_eq_some_iff.mp h
    obtain ⟨hsuffix, hagain⟩ := flags?_alike (T := T) hflags
    -- Both ways the input goes on behind what ends the flags.
    have ht : t = { s with rest := left.drop 1, flags := flags } := by
      dsimp only at h
      split_ifs at h <;> cases h <;> rfl
    subst ht
    refine ⟨(List.drop_suffix 1 left).trans (hsuffix.trans (tail_suffix hrest List.suffix_rfl)),
      fun s' hs hin => ?_⟩
    have hpos := T.given_pos
    have hlt : T.given.length < left.length := by
      simp only [List.length_drop] at hin
      omega
    obtain ⟨back, hback, halike⟩ := (hrest ▸ hs.rest).tail_of_ne (by decide)
    obtain ⟨flags', left', hread, hf, hleft⟩ := hagain back s'.flags halike hs.flags hlt
    refine ⟨expression, { s' with rest := left'.drop 1, flags := flags' }, ?_, rfl,
      hleft.drop hin, hf, hs.names⟩
    unfold Finds groupStart?
    rw [hbeyond s' hs, if_neg hsome]
    split
    case h_1 back' heq =>
      exact absurd heq (hs.rest.ne_append ['?', '<'] (by decide) (by simp_all) back')
    case h_2 back' heq =>
      exact absurd heq (hs.rest.ne_append ['?', 'P', '<'] (by decide) (by simp_all) back')
    case h_4 hquestion => exact (hquestion back hback).elim
    case h_3 back' _ _ heq =>
      obtain rfl : back' = back := (List.cons.inj (heq.symm.trans hback)).2
      rw [hread _ (Nat.lt_succ_self _), Option.bind_some]
      have hlengths := halike.length
      have hlengths' := hleft.length
      have hsame : left'.length = back'.length ↔ left.length = rest.length := by omega
      simp only [hleft.head? hlt, hsame] at h ⊢
      split_ifs at h ⊢ <;> cases h <;> rfl
  case h_4 hquestion =>
    cases h
    refine follows_self fun s' hs => ⟨true, ?_, rfl⟩
    have hquestion' := hs.rest.ne_cons (by decide) hquestion
    unfold Finds groupStart?
    rw [hbeyond s' hs, if_neg hsome]
    split
    case h_1 heq | h_2 heq | h_3 heq => exact absurd heq (hquestion' _)
    case h_4 => rfl

theorem follows_group? {body : Input → Option (Expr × Input)} {item : Option Expr}
    (hbody : ∀ v e w, body v = some (e, w) →
      T.Follows T.Agree v e w (FindsAll fun depth => body? depth false))
    (h : group? body s = some (item, t)) :
    T.Follows T.SameItem s item t fun s' item' t' => ∀ depth, s'.rest.length < depth →
      group? (body? depth false) s' = some (item', t') := by
  rw [group?_eq] at h
  obtain ⟨⟨expression, v⟩, hstart, h⟩ := Option.bind_eq_some_iff.mp h
  have hreadStart := follows_groupStart? (T := T) hstart
  dsimp only at h
  split_ifs at h with hexpression
  · obtain ⟨⟨e, w⟩, hread, h⟩ := Option.bind_eq_some_iff.mp h
    cases h
    have hreadBody := hbody v e w hread
    refine ⟨hreadBody.suffix.trans hreadStart.suffix, fun s' hs hin => ?_⟩
    obtain ⟨_, v', hstart', rfl, hv⟩ := hreadStart.found s' hs (hin.trans hreadBody.le)
    obtain ⟨e', w', hread', hagree, hw⟩ := hreadBody.found v' hv hin
    have hstart' : groupStart? s' = some (expression, v') := hstart'
    refine ⟨some e', { w' with flags := s'.flags }, fun depth hdepth => ?_,
      ⟨rfl, fun hexact => congrArg some (hagree hexact)⟩, hw.rest, hs.flags, hw.names⟩
    have hle := hreadStart.le
    have hlengths := hs.rest.length
    have hlengths' := hv.rest.length
    have hread' : body? depth false v' = some (e', w') := hread' depth (by omega)
    rw [group?_eq, hstart', Option.bind_some, if_pos hexpression]
    dsimp only
    rw [hread', Option.bind_some]
  · cases h
    refine hreadStart.imp fun s' expression' t' _ _ hstart' hsame =>
      ⟨none, fun depth _ => ?_, rfl, fun _ => rfl⟩
    obtain rfl := hsame
    have hstart' : groupStart? s' = some (expression, t') := hstart'
    rw [group?_eq, hstart', Option.bind_some, if_neg hexpression]

end Tails

end MetastoreFederation.Regex
