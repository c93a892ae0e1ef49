import MetastoreFederation.Proofs.Regex.Marks

/-!
The parts of a text that expressions match, each by where it starts and where it ends. The marks
that an expression leads to are the ends of these parts, and to stop a repetition after as many
matches as the text has characters loses none of them.
-/

set_option autoImplicit false
set_option relaxedAutoImplicit false

namespace MetastoreFederation.Regex

/-- That many steps lead from one place to another. -/
def Times (step : Nat → Nat → Prop) : Nat → Nat → Nat → Prop
  | 0, i, j => i = j
  | n + 1, i, j => ∃ k, step i k ∧ Times step n k j

namespace Expr

/-- The part of the text between two places is a match. -/
def Spans (text : List Char) : Expr → Nat → Nat → Prop
  | empty, i, j => i = j
  | set s, i, j => j = i + 1 ∧ ∃ c, text[i]? = some c ∧ s.holds c = true
  | look l, i, j => i = j ∧ ∃ n, (neighbours none text)[i]? = some n ∧ l.holds n = true
  | concat a b, i, j => ∃ k, Spans text a i k ∧ Spans text b k j
  | alternate a b, i, j => Spans text a i j ∨ Spans text b i j
  | .repeat e least most, i, j =>
    ∃ n, least ≤ n ∧ (∀ bound ∈ most, n ≤ max least bound) ∧ Times (Spans text e) n i j

/-- The whole name is a match. -/
def MatchesWhole (e : Expr) (name : String) : Prop := e.Spans name.toList 0 name.toList.length

end Expr

section Steps

variable {step : Nat → Nat → Prop} {i j k n n' bound : Nat}

theorem times_add_iff : Times step (n + n') i j ↔ ∃ k, Times step n i k ∧ Times step n' k j := by
  induction n generalizing i with
  | zero => simp [Times]
  | succ n ih =>
    rw [Nat.succ_add]
    simp only [Times, ih]
    exact ⟨fun ⟨k, hk, l, hl, hj⟩ => ⟨l, ⟨k, hk, hl⟩, hj⟩,
      fun ⟨l, ⟨k, hk, hl⟩, hj⟩ => ⟨k, hk, l, hl, hj⟩⟩

theorem Times.le (hstep : ∀ {i j}, step i j → i ≤ j) (h : Times step n i j) : i ≤ j := by
  induction n generalizing i with
  | zero => exact Nat.le_of_eq h
  | succ n ih =>
    obtain ⟨k, hk, hj⟩ := h
    exact (hstep hk).trans (ih hj)

theorem Times.within (hstep : ∀ {i j}, step i j → i ≤ bound → j ≤ bound) (h : Times step n i j)
    (hi : i ≤ bound) : j ≤ bound := by
  induction n generalizing i with
  | zero => exact h ▸ hi
  | succ n ih =>
    obtain ⟨k, hk, hj⟩ := h
    exact ih hj (hstep hk hi)

/-- Steps that lead nowhere can be left out. -/
theorem Times.shorten (hstep : ∀ {i j}, step i j → i ≤ j) (h : Times step n i j) :
    ∃ n' ≤ n, n' ≤ j - i ∧ Times step n' i j := by
  induction n generalizing i with
  | zero => exact ⟨0, Nat.le_refl 0, Nat.zero_le _, h⟩
  | succ n ih =>
    obtain ⟨k, hk, hj⟩ := h
    obtain ⟨n', hn', hshort, hsteps⟩ := ih hj
    rcases (hstep hk).eq_or_lt with rfl | hlt
    · exact ⟨n', hn'.trans (Nat.le_succ n), hshort, hsteps⟩
    · have hle := Times.le hstep hj
      exact ⟨n' + 1, Nat.succ_le_succ hn', by omega, k, hk, hsteps⟩

/-- To stay is to take fewer steps. -/
theorem times_or_eq_iff :
    Times (fun i j => i = j ∨ step i j) n i j ↔ ∃ n' ≤ n, Times step n' i j := by
  induction n generalizing i with
  | zero => simp [Times]
  | succ n ih =>
    simp only [Times, ih]
    constructor
    · rintro ⟨k, rfl | hk, n', hn', hsteps⟩
      · exact ⟨n', hn'.trans (Nat.le_succ n), hsteps⟩
      · exact ⟨n' + 1, Nat.succ_le_succ hn', k, hk, hsteps⟩
    · rintro ⟨n', hn', hsteps⟩
      cases n' with
      | zero => exact ⟨i, .inl rfl, 0, Nat.zero_le n, hsteps⟩
      | succ n' =>
        obtain ⟨k, hk, hsteps⟩ := hsteps
        exact ⟨k, .inr hk, n', Nat.le_of_succ_le_succ hn', hsteps⟩

/-- At least so many steps, and at most so many where a number is given, are the least ones and some
that follow. No more follow than there is room for. -/
theorem exists_times_iff {least : Nat} {most : Option Nat} {room : Nat}
    (hstep : ∀ {i j}, step i j → i ≤ j) (hroom : ∀ n, Times step n i j → j ≤ room) :
    (∃ n, least ≤ n ∧ (∀ bound ∈ most, n ≤ max least bound) ∧ Times step n i j) ↔
      ∃ k, Times step least i k ∧
        ∃ n ≤ most.elim room (fun bound => min (bound - least) room), Times step n k j := by
  constructor
  · rintro ⟨n, hleast, hmost, hsteps⟩
    have hj := hroom n hsteps
    obtain ⟨further, rfl⟩ := Nat.exists_eq_add_of_le hleast
    obtain ⟨k, hk, hsteps⟩ := times_add_iff.mp hsteps
    obtain ⟨n, hn, hshort, hsteps⟩ := hsteps.shorten hstep
    refine ⟨k, hk, n, ?_, hsteps⟩
    cases most with
    | none => exact hshort.trans ((Nat.sub_le j k).trans hj)
    | some bound =>
      have hbound := hmost bound rfl
      exact Nat.le_min.mpr ⟨by omega, hshort.trans ((Nat.sub_le j k).trans hj)⟩
  · rintro ⟨k, hk, n, hn, hsteps⟩
    refine ⟨least + n, Nat.le_add_right least n, ?_, times_add_iff.mpr ⟨k, hk, hsteps⟩⟩
    rintro bound rfl
    have hbound := (Nat.le_min.mp hn).1
    omega

end Steps

namespace Expr

variable {text : List Char} {m : Marks} {e : Expr} {i j : Nat}

theorem Spans.le (h : e.Spans text i j) : i ≤ j := by
  induction e generalizing i j with
  | empty => exact Nat.le_of_eq h
  | set s => exact h.1 ▸ Nat.le_succ i
  | look l => exact Nat.le_of_eq h.1
  | concat a b iha ihb =>
    obtain ⟨k, ha, hb⟩ := h
    exact (iha ha).trans (ihb hb)
  | alternate a b iha ihb => exact h.elim iha ihb
  | «repeat» e least most ih =>
    obtain ⟨n, -, -, hsteps⟩ := h
    exact hsteps.le ih

theorem Spans.within (h : e.Spans text i j) (hi : i ≤ text.length) : j ≤ text.length := by
  induction e generalizing i j with
  | empty => exact h ▸ hi
  | set s =>
    obtain ⟨rfl, c, hc, -⟩ := h
    exact (List.getElem?_eq_some_iff.mp hc).1
  | look l => exact h.1 ▸ hi
  | concat a b iha ihb =>
    obtain ⟨k, ha, hb⟩ := h
    exact ihb hb (iha ha hi)
  | alternate a b iha ihb => exact h.elim (iha · hi) (ihb · hi)
  | «repeat» e least most ih =>
    obtain ⟨n, -, -, hsteps⟩ := h
    exact hsteps.within ih hi

/-- What holds of one application holds of several. -/
theorem marked_iterate_iff {f : Marks → Marks} {step : Nat → Nat → Prop} {size : Nat}
    (hlength : ∀ m : Marks, m.length = size → (f m).length = size)
    (hf : ∀ (m : Marks) (j : Nat), m.length = size →
      (Marked (f m) j ↔ ∃ i, Marked m i ∧ step i j))
    (n : Nat) (hm : m.length = size) :
    Marked (f^[n] m) j ↔ ∃ i, Marked m i ∧ Times step n i j := by
  induction n generalizing m with
  | zero => simp [Times]
  | succ n ih =>
    rw [Function.iterate_succ_apply, ih (hlength m hm)]
    simp only [hf m _ hm, Times]
    constructor
    · rintro ⟨k, ⟨i, hi, hk⟩, hj⟩
      exact ⟨i, hi, k, hk, hj⟩
    · rintro ⟨i, hi, k, hk, hj⟩
      exact ⟨k, ⟨i, hi, hk⟩, hj⟩

theorem marked_grow_spans_iff
    (he : ∀ m j, m.length = text.length + 1 →
      (Marked (e.ends text m) j ↔ ∃ i, Marked m i ∧ e.Spans text i j))
    (hm : m.length = text.length + 1) :
    Marked (grow text e m) j ↔ ∃ i, Marked m i ∧ (i = j ∨ e.Spans text i j) := by
  rw [marked_grow_or_iff hm, he m j hm]
  simp only [and_or_left, exists_or, exists_eq_right]

/-- The least matches of a repetition come first, and then as many more as there may be, each of
which can be left out. -/
theorem marked_repeat_iff {least : Nat} {most : Option Nat}
    (he : ∀ m j, m.length = text.length + 1 →
      (Marked (e.ends text m) j ↔ ∃ i, Marked m i ∧ e.Spans text i j))
    (hm : m.length = text.length + 1) :
    Marked ((Expr.repeat e least most).ends text m) j ↔
      ∃ i, Marked m i ∧ (Expr.repeat e least most).Spans text i j := by
  let further : Nat :=
    most.elim (text.length + 1) fun bound => min (bound - least) (text.length + 1)
  have hends : (Expr.repeat e least most).ends text m =
      (grow text e)^[further] ((e.ends text)^[least] m) := by
    rw [← iterate_eq, ← iterate_eq]
    cases most <;> rfl
  have hleast : ((e.ends text)^[least] m).length = text.length + 1 := by
    rw [← iterate_eq]
    exact iterate_induction (P := fun m => m.length = text.length + 1)
      (fun m hm => length_ends e hm) least hm
  rw [hends, marked_iterate_iff (fun m => length_grow)
    (fun m j hm => marked_grow_spans_iff he hm) further hleast]
  simp only [times_or_eq_iff, marked_iterate_iff (fun m => length_ends e) he least hm]
  have hspans (i : Nat) (hi : Marked m i) : (Expr.repeat e least most).Spans text i j ↔
      ∃ k, Times (e.Spans text) least i k ∧ ∃ n ≤ further, Times (e.Spans text) n k j := by
    have hplace : i < m.length := (List.getElem?_eq_some_iff.mp hi).1
    refine exists_times_iff Spans.le fun n hsteps => (hsteps.within Spans.within ?_).trans
      (Nat.le_succ text.length)
    omega
  constructor
  · rintro ⟨k, ⟨i, hi, hk⟩, hj⟩
    exact ⟨i, hi, (hspans i hi).mpr ⟨k, hk, hj⟩⟩
  · rintro ⟨i, hi, hj⟩
    obtain ⟨k, hk, hj⟩ := (hspans i hi).mp hj
    exact ⟨k, ⟨i, hi, hk⟩, hj⟩

/-- The marks of an expression are the ends of its matches. -/
theorem marked_ends_iff (hm : m.length = text.length + 1) :
    Marked (e.ends text m) j ↔ ∃ i, Marked m i ∧ e.Spans text i j := by
  induction e generalizing m j with
  | empty => simp [ends, Spans]
  | set s =>
    rw [marked_ends_set]
    constructor
    · rintro ⟨i, c, hj, hi, hc, hholds⟩
      exact ⟨i, hi, hj, c, hc, hholds⟩
    · rintro ⟨i, hi, hj, c, hc, hholds⟩
      exact ⟨i, c, hj, hi, hc, hholds⟩
  | look l =>
    rw [marked_ends_look]
    simp only [Spans]
    constructor
    · rintro ⟨hj, hlook⟩
      exact ⟨j, hj, rfl, hlook⟩
    · rintro ⟨i, hi, rfl, hlook⟩
      exact ⟨hi, hlook⟩
  | concat a b iha ihb =>
    change Marked (b.ends text (a.ends text m)) j ↔ _
    rw [ihb (length_ends a hm)]
    simp only [iha hm, Spans]
    constructor
    · rintro ⟨k, ⟨i, hi, ha⟩, hb⟩
      exact ⟨i, hi, k, ha, hb⟩
    · rintro ⟨i, hi, k, ha, hb⟩
      exact ⟨k, ⟨i, hi, ha⟩, hb⟩
  | alternate a b iha ihb =>
    change Marked (List.zipWith or (a.ends text m) (b.ends text m)) j ↔ _
    rw [marked_or_iff ((length_ends a hm).trans (length_ends b hm).symm), iha hm, ihb hm,
      ← exists_or]
    simp only [Spans, and_or_left]
  | «repeat» e least most ih => exact marked_repeat_iff (fun _ _ => ih) hm

/-- An expression between the start and the end of a text matches the names that are matches. -/
theorem isMatch_between_iff_matchesWhole {name : String} :
    (sequence [look .textStart, e, look .textEnd]).isMatch name = true ↔ e.MatchesWhole name := by
  rw [isMatch_between_iff, marked_ends_iff (length_start name)]
  simp only [marked_start_iff, exists_eq_left]
  rfl

end Expr

end MetastoreFederation.Regex
