import MetastoreFederation.Proofs.Regex.Groups

/-!
Whole expressions in texts that start alike. A step through the alternatives of a group is the same
in front of both tails, and so is a run, up to the parenthesis that closes the group. Where that
parenthesis starts the one tail, the other one closes a group or ends the text.
-/

set_option autoImplicit false
set_option relaxedAutoImplicit false

namespace MetastoreFederation.Regex

namespace Tails

variable {T : Tails} {s s' t : Input} {b b' c : Branches} {body : Input → Option (Expr × Input)}

/-- Alternatives of one kind that agree. -/
structure SameBranches (T : Tails) (b b' : Branches) : Prop where
  items : b'.items.map Option.isSome = b.items.map Option.isSome
  agree : T.Agree b b'

theorem SameBranches.add {item item' : Option Expr} (h : T.SameBranches b b')
    (hitem : T.SameItem item item') : T.SameBranches (b.add item) (b'.add item') := by
  refine ⟨?_, fun hexact => ?_⟩
  · simp [Branches.add, h.items, hitem.isSome]
  · rw [h.agree hexact, hitem.agree hexact]

theorem SameBranches.bar (h : T.SameBranches b b') :
    T.SameBranches ⟨b.current :: b.finished, []⟩ ⟨b'.current :: b'.finished, []⟩ :=
  ⟨rfl, fun hexact => by rw [h.agree hexact]⟩

theorem SameBranches.repeated? {least : Nat} {most : Option Nat} (h : T.SameBranches b b')
    (hrepeated : b.repeated? least most = some c) :
    ∃ c', b'.repeated? least most = some c' ∧ T.SameBranches c c' := by
  obtain ⟨finished, items⟩ := b
  obtain ⟨finished', items'⟩ := b'
  have hitems : items'.map Option.isSome = items.map Option.isSome := h.items
  rcases items with _ | ⟨_ | e, items⟩
  · cases hrepeated
  · cases hrepeated
  · rcases items' with _ | ⟨_ | e', items'⟩
    · cases hitems
    · cases hitems
    · cases hrepeated
      refine ⟨_, rfl, by simpa using hitems, fun hexact => ?_⟩
      cases h.agree hexact
      rfl

theorem pastLazy_suffix (s : Input) : s.pastLazy.rest <:+ s.rest := by
  unfold Input.pastLazy
  split
  · exact s.skip_suffix 1
  · exact List.suffix_rfl

theorem Twins.pastLazy (h : T.Twins s s') (hin : T.given.length ≤ s.pastLazy.rest.length) :
    T.Twins s.pastLazy s'.pastLazy := by
  unfold Input.pastLazy at hin ⊢
  split at hin
  case h_1 rest hrest =>
    obtain ⟨back, hback, -⟩ := (hrest ▸ h.rest).tail_of_ne (by decide)
    simp only [hback]
    exact h.skip hin
  case h_2 hnot =>
    split
    case h_1 back hback => exact absurd hback (h.rest.ne_cons (by decide) hnot back)
    case h_2 => exact h

theorem follows_repeated {least : Nat} {most : Option Nat} {d : Char} {rest : List Char}
    (hb : T.SameBranches b b') (hrest : s.rest = d :: rest)
    (h : (b.repeated? least most).map (fun c => (c, (s.skip 1).pastLazy)) = some (c, t)) :
    T.Follows T.SameBranches s c t fun s' c' t' => (∃ back, s'.rest = d :: back) ∧
      (b'.repeated? least most).map (fun c => (c, (s'.skip 1).pastLazy)) = some (c', t') := by
  obtain ⟨c, hrepeated, h⟩ := Option.map_eq_some_iff.mp h
  cases h
  have hlazy := (pastLazy_suffix (s.skip 1)).length_le
  refine ⟨(pastLazy_suffix _).trans (s.skip_suffix 1), fun s' hs hin => ?_⟩
  obtain ⟨back, hback⟩ := hs.cons hrest (hin.trans hlazy)
  obtain ⟨c', hrepeated', hc⟩ := hb.repeated? hrepeated
  exact ⟨c', (s'.skip 1).pastLazy, ⟨⟨back, hback⟩, by rw [hrepeated']; rfl⟩, hc,
    (hs.skip (hin.trans hlazy)).pastLazy hin⟩

theorem follows_branchStep?
    (hbody : ∀ v e w, body v = some (e, w) →
      T.Follows T.Agree v e w (FindsAll fun depth => body? depth false))
    (hb : T.SameBranches b b') (h : branchStep? body b s = some (c, t)) :
    T.Follows T.SameBranches s c t fun s' c' t' => T.Ahead '\x7b' t → ∀ depth,
      s'.rest.length ≤ depth → branchStep? (body? depth false) b' s' = some (c', t') := by
  unfold branchStep? at h
  split at h
  case h_7 | h_8 => cases h
  case h_1 rest hrest =>
    cases h
    exact follows_skip hrest fun s' back _ hback =>
      ⟨_, fun _ _ _ => by simp [branchStep?, hback], hb.bar⟩
  case h_2 rest hrest =>
    obtain ⟨⟨item, u⟩, hgroup, h⟩ := Option.map_eq_some_iff.mp h
    cases h
    refine (follows_group? hbody hgroup).skip hrest fun s' back item' t' _ hback _ hread hitem =>
      ⟨b'.add item', fun _ depth hdepth => ?_, hb.add hitem⟩
    simp [branchStep?, hback, hread depth ((Input.length_skip_lt hback).trans_le hdepth)]
  case h_3 rest hrest | h_4 rest hrest | h_5 rest hrest =>
    refine (follows_repeated hb hrest h).imp fun s' c' t' _ _ hread hc =>
      ⟨c', fun _ depth _ => ?_, hc⟩
    obtain ⟨⟨back, hback⟩, hread⟩ := hread
    simp only [branchStep?, hback]
    exact hread
  case h_6 rest hrest =>
    obtain ⟨⟨least, most, u⟩, hcounts, h⟩ := Option.bind_eq_some_iff.mp h
    obtain ⟨c, hrepeated, h⟩ := Option.map_eq_some_iff.mp h
    cases h
    have hread := follows_counts? (T := T) hcounts
    have hle := hread.le
    have hblanks := u.length_blanks_le
    have hlazy := (pastLazy_suffix u.blanks).length_le
    have hsuffix := ((pastLazy_suffix _).trans u.blanks_suffix).trans hread.suffix
    refine ⟨hsuffix.trans (s.skip_suffix 1), fun s' hs hin => ?_⟩
    dsimp only at hin
    obtain ⟨back, hback⟩ := hs.cons hrest (by omega)
    obtain ⟨_, u', hread', rfl, hu⟩ := hread.found _ (hs.skip (by omega)) (by omega)
    obtain ⟨c', hrepeated', hc⟩ := hb.repeated? hrepeated
    refine ⟨c', u'.blanks.pastLazy, fun _ depth _ => ?_, hc, (hu.blanks (by omega)).pastLazy hin⟩
    have hread' : counts? (s'.skip 1) = some (least, most, u') := hread'
    have hrepeated' : b'.repeated? least most = some c' := hrepeated'
    simp [branchStep?, hback, hread', hrepeated']
  case h_9 hbar hopen hquestion hstar hplus hbrace hend hclose =>
    obtain ⟨⟨e, u⟩, hatom, h⟩ := Option.map_eq_some_iff.mp h
    cases h
    refine (follows_atom? hatom).imp fun s' e' t' hs _ hread he =>
      ⟨b'.add (some e'), fun hahead depth _ => ?_,
        hb.add ⟨rfl, fun hexact => congrArg some (he hexact)⟩⟩
    obtain ⟨d, rest, hrest⟩ := List.exists_cons_of_ne_nil hend
    obtain ⟨back, hback, -⟩ := (hrest ▸ hs.rest).tail_of_ne fun hd => hclose rest (hd ▸ hrest)
    -- Both inputs start with the same character, and it is none of those above.
    have hother {x : Char} {tail : List Char} (hx : ∀ tail, s.rest = x :: tail → False)
        (heq : s'.rest = x :: tail) : False := by
      rw [hback] at heq
      exact hx rest (by rw [hrest, (List.cons.inj heq).1])
    unfold branchStep?
    split
    case h_1 heq => exact (hother hbar heq).elim
    case h_2 heq => exact (hother hopen heq).elim
    case h_3 heq => exact (hother hquestion heq).elim
    case h_4 heq => exact (hother hstar heq).elim
    case h_5 heq => exact (hother hplus heq).elim
    case h_6 heq => exact (hother hbrace heq).elim
    case h_7 hnil =>
      rw [hback] at hnil
      cases hnil
    case h_8 heq => exact (hother hclose heq).elim
    case h_9 => rw [hread hahead _ (Nat.le_refl _), Option.map_some]

section Run

variable {fuel depth : Nat} {e : Expr}

theorem length_atom?_lt (h : atom? fuel s = some (e, t)) : t.rest.length < s.rest.length := by
  unfold atom? at h
  split at h
  case h_1 => cases h
  case h_2 rest hrest =>
    obtain ⟨⟨atom, u⟩, hescape, h⟩ := Option.bind_eq_some_iff.mp h
    cases h
    exact (follows_escape? (T := .closing) hescape).le.trans_lt (Input.length_skip_lt hrest)
  case h_3 rest hrest =>
    obtain ⟨⟨set, u⟩, hbracket, h⟩ := Option.bind_eq_some_iff.mp h
    cases h
    exact (follows_bracket? (T := .closing) hbracket).le.trans_lt (Input.length_skip_lt hrest)
  case h_4 rest hrest =>
    obtain ⟨set, hset, h⟩ := Option.bind_eq_some_iff.mp h
    cases h
    exact Input.length_skip_lt hrest
  case h_5 rest hrest | h_6 rest hrest | h_7 rest _ _ _ _ _ hrest =>
    cases h
    exact Input.length_skip_lt hrest

theorem length_branchStep?_lt
    (hbody : ∀ v e w, body v = some (e, w) →
      T.Follows T.Agree v e w (FindsAll fun depth => body? depth false))
    (h : branchStep? body b s = some (c, t)) : t.rest.length < s.rest.length := by
  unfold branchStep? at h
  split at h
  case h_7 | h_8 => cases h
  case h_1 rest hrest =>
    cases h
    exact Input.length_skip_lt hrest
  case h_2 rest hrest =>
    obtain ⟨⟨item, u⟩, hgroup, h⟩ := Option.map_eq_some_iff.mp h
    cases h
    exact (follows_group? hbody hgroup).le.trans_lt (Input.length_skip_lt hrest)
  case h_3 rest hrest | h_4 rest hrest | h_5 rest hrest =>
    obtain ⟨c, hrepeated, h⟩ := Option.map_eq_some_iff.mp h
    cases h
    exact (pastLazy_suffix _).length_le.trans_lt (Input.length_skip_lt hrest)
  case h_6 rest hrest =>
    obtain ⟨⟨least, most, u⟩, hcounts, h⟩ := Option.bind_eq_some_iff.mp h
    obtain ⟨c, hrepeated, h⟩ := Option.map_eq_some_iff.mp h
    cases h
    have hle := (follows_counts? (T := .closing) hcounts).suffix
    exact (((pastLazy_suffix _).trans u.blanks_suffix).trans hle).length_le.trans_lt
      (Input.length_skip_lt hrest)
  case h_9 =>
    obtain ⟨⟨e, u⟩, hatom, h⟩ := Option.map_eq_some_iff.mp h
    cases h
    exact length_atom?_lt hatom

theorem length_read?_lt
    (hbody : ∀ v e w, body v = some (e, w) →
      T.Follows T.Agree v e w (FindsAll fun depth => body? depth false))
    (h : read? body false fuel b s = some (e, t)) : t.rest.length < s.rest.length := by
  induction fuel generalizing b s with
  | zero => cases h
  | succ fuel ih =>
    have hblanks := s.length_blanks_le
    cases hrest : s.blanks.rest with
    | nil =>
      rw [read?_ends (by simp [hrest])] at h
      simp [ends?, hrest] at h
    | cons c rest =>
      by_cases hclose : c = ')'
      · rw [read?_ends (by simp [hrest, hclose])] at h
        simp only [ends?, hrest, Bool.false_eq_true, if_false] at h
        cases h
        exact (Input.length_skip_lt hrest).trans_le hblanks
      · rw [read?_step hrest hclose] at h
        obtain ⟨⟨b₂, u⟩, hstep, h⟩ := Option.bind_eq_some_iff.mp h
        exact ((ih h).trans (length_branchStep?_lt hbody hstep)).trans_le hblanks

/-- An opened brace starts counts, so that the rest of the group is behind them. -/
theorem ahead_of_read?
    (hbody : ∀ v e w, body v = some (e, w) →
      T.Follows T.Agree v e w (FindsAll fun depth => body? depth false))
    (h : read? body false fuel b s = some (e, t)) (hin : T.given.length ≤ t.rest.length + 1) :
    T.Ahead '\x7b' s := by
  intro rest hrest
  cases fuel with
  | zero => cases h
  | succ fuel =>
    have hblanks := Input.blanks_of_cons hrest (by decide) (by decide)
    rw [read?_step (by rw [hblanks, hrest]) (by decide), hblanks] at h
    obtain ⟨⟨b₂, v⟩, hstep, h⟩ := Option.bind_eq_some_iff.mp h
    have hlt := length_read?_lt hbody h
    simp only [branchStep?, hrest] at hstep
    obtain ⟨⟨least, most, u⟩, hcounts, hstep⟩ := Option.bind_eq_some_iff.mp hstep
    obtain ⟨c, -, hstep⟩ := Option.map_eq_some_iff.mp hstep
    cases hstep
    have hcounts : u.rest.length < s.next.rest.length := length_counts?_lt hcounts
    have hlazy := ((pastLazy_suffix u.blanks).trans u.blanks_suffix).length_le
    dsimp only at hlt
    omega

/-- The alternatives of a group are read up to the parenthesis that closes it. In front of the other
tail they are read up to the same place. -/
theorem follows_read?
    (hbody : ∀ v e w, body v = some (e, w) →
      T.Follows T.Agree v e w (FindsAll fun depth => body? depth false))
    (hb : T.SameBranches b b') (h : read? body false fuel b s = some (e, t)) :
    T.Follows T.Agree s e t.atClose fun s' e' u' => (∀ d ∈ u'.rest.head?, d = ')') ∧
      ∀ depth top fuel, s'.rest.length ≤ depth → s'.rest.length < fuel →
        read? (body? depth false) top fuel b' s' = ends? top e' u' := by
  induction fuel generalizing b b' s with
  | zero => cases h
  | succ fuel ih =>
    have hblanks := s.length_blanks_le
    cases hrest : s.blanks.rest with
    | nil =>
      rw [read?_ends (by simp [hrest])] at h
      simp [ends?, hrest] at h
    | cons d rest =>
      by_cases hclose : d = ')'
      · subst hclose
        rw [read?_ends (by simp [hrest])] at h
        simp only [ends?, hrest, Bool.false_eq_true, if_false] at h
        cases h
        have hplace : (s.blanks.skip 1).atClose = s.blanks := by
          unfold Input.atClose Input.skip
          rw [hrest, List.drop_one, List.tail_cons, ← hrest]
        rw [hplace]
        have hend : T.Follows T.Agree s.blanks b.whole s.blanks fun v' e' u' =>
            u' = v' ∧ e' = b'.whole := follows_self fun v' _ =>
          ⟨b'.whole, ⟨rfl, rfl⟩, fun hexact => congrArg Branches.whole (hb.agree hexact)⟩
        refine hend.blanks fun s' e' u' _ hu hread he => ⟨e', ?_, he⟩
        obtain ⟨rfl, rfl⟩ := hread
        have hhead := hu.rest.head?_false (p := (· != ')')) rfl (by simp [hrest])
        have hends : ∀ d ∈ s'.blanks.rest.head?, d = ')' := by simpa using hhead
        refine ⟨hends, fun depth top fuel _ hfuel => ?_⟩
        obtain ⟨fuel, rfl⟩ := Nat.exists_eq_succ_of_ne_zero (Nat.ne_zero_of_lt hfuel)
        exact read?_ends hends
      · rw [read?_step hrest hclose] at h
        obtain ⟨⟨b₂, v⟩, hstep, h⟩ := Option.bind_eq_some_iff.mp h
        dsimp only at h
        have hread := follows_branchStep? hbody hb hstep
        have hle := hread.le
        have hsuffix := (ih ⟨rfl, fun _ => rfl⟩ h).suffix
        have hle' := hsuffix.length_le
        refine ⟨(hsuffix.trans hread.suffix).trans s.blanks_suffix, fun s' hs hin => ?_⟩
        have hahead : T.Ahead '\x7b' v := ahead_of_read? hbody h hin
        have hv := hs.blanks (by omega)
        obtain ⟨back, hback, -⟩ := (hrest ▸ hv.rest).tail_of_ne hclose
        obtain ⟨b₂', v', hstep', hb₂, hv'⟩ := hread.found _ hv (by omega)
        obtain ⟨e', u', ⟨hends, hagain⟩, he, hu⟩ := (ih hb₂ h).found v' hv' hin
        refine ⟨e', u', ⟨hends, fun depth top fuel hdepth hfuel => ?_⟩, he, hu⟩
        obtain ⟨fuel, rfl⟩ := Nat.exists_eq_succ_of_ne_zero (Nat.ne_zero_of_lt hfuel)
        have hlt := length_branchStep?_lt hbody hstep
        have hlengths := hv.rest.length
        have hlengths' := hv'.rest.length
        have hblanks' := s'.length_blanks_le
        rw [read?_step hback hclose, hstep' hahead depth (by omega), Option.bind_some]
        exact hagain depth top fuel (by omega) (by omega)

/-- An expression is read up to the parenthesis that closes it. In front of the other tail it is
read up to the same place, where its group or the text ends. -/
theorem follows_body? (h : body? depth false s = some (e, t)) :
    T.Follows T.Agree s e t.atClose fun s' e' u' => (∀ d ∈ u'.rest.head?, d = ')') ∧
      ∀ depth top, s'.rest.length < depth → body? depth top s' = ends? top e' u' := by
  induction depth generalizing s e t with
  | zero => cases h
  | succ depth ih =>
    have hbody (v : Input) (e : Expr) (w : Input) (hread : body? depth false v = some (e, w)) :
        T.Follows T.Agree v e w (FindsAll fun depth => body? depth false) := by
      have hlt : w.rest <:+ w.atClose.rest := List.suffix_cons _ _
      refine ⟨hlt.trans (ih hread).suffix, fun s' hs hin => ?_⟩
      obtain ⟨e', u', ⟨-, hread'⟩, he, hu⟩ := (ih hread).found s' hs (hin.trans hlt.length_le)
      obtain ⟨back, hback⟩ := hu.cons (s := w.atClose) rfl hin
      refine ⟨e', u'.skip 1, fun depth hdepth => ?_, he, hu.skip (n := 1) hin⟩
      have hends : ends? false e' u' = some (e', u'.skip 1) := by
        unfold ends?
        rw [hback]
        rfl
      exact (hread' depth false hdepth).trans hends
    have hempty : T.SameBranches ⟨[], []⟩ ⟨[], []⟩ := ⟨rfl, fun _ => rfl⟩
    have hread := follows_read? hbody hempty h
    refine hread.imp fun s' e' u' _ _ hagain he =>
      ⟨e', ⟨hagain.1, fun depth top hdepth => ?_⟩, he⟩
    obtain ⟨depth, rfl⟩ := Nat.exists_eq_succ_of_ne_zero (Nat.ne_zero_of_lt hdepth)
    exact hagain.2 depth top _ (Nat.le_of_lt_succ hdepth) (Nat.lt_succ_self _)

/-- Where the given tail closes the expression, the other one ends it. -/
theorem exists_ends_of_body? {front : List Char} {flags flags' : Flags} {names : List (List Char)}
    (h : body? depth false ⟨front ++ T.given, flags, names⟩ = some (e, t))
    (ht : t.atClose.rest = T.given) (hflags : T.SameFlags flags flags') :
    ∃ e' u, u.rest = T.other ∧ T.Agree e e' ∧ ∀ depth top, (front ++ T.other).length < depth →
      body? depth top ⟨front ++ T.other, flags', names⟩ = ends? top e' u := by
  have htwins : T.Twins ⟨front ++ T.given, flags, names⟩ ⟨front ++ T.other, flags', names⟩ :=
    ⟨⟨front, rfl, rfl⟩, hflags, rfl⟩
  obtain ⟨e', u, ⟨-, hread⟩, he, ⟨middle, hmiddle, hu⟩, -, -⟩ :=
    (follows_body? h).found _ htwins (by rw [ht])
  rw [ht, List.self_eq_append_left] at hmiddle
  rw [hmiddle] at hu
  exact ⟨e', u, hu, he, hread⟩

end Run

end Tails

end MetastoreFederation.Regex
