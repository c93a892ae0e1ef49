import Mathlib.Algebra.BigOperators.Group.List.Basic
import Mathlib.Computability.Language
import Mathlib.Data.List.Basic
import Mathlib.Logic.Function.Iterate
import MetastoreFederation.Regex.Expr

/-!
What expressions match, told by the places that are marked and by languages. An expression takes a
language if it leads from each marked place to the ends of the words of the language, and from the
languages of its parts comes the one of a sequence and of a repetition.
-/

set_option autoImplicit false
set_option relaxedAutoImplicit false

namespace MetastoreFederation.Regex

namespace Expr

variable {text : List Char} {m : Marks} {i j : Nat}

/-- The place with the number is marked. -/
def Marked (m : Marks) (i : Nat) : Prop := m[i]? = some true

theorem marked_ends_set {s : CharSet} :
    Marked ((set s).ends text m) j ↔
      ∃ i c, j = i + 1 ∧ Marked m i ∧ text[i]? = some c ∧ s.holds c = true := by
  unfold Marked ends
  cases j with
  | zero => simp
  | succ i =>
    rw [List.getElem?_cons_succ, List.getElem?_zipWith_eq_some]
    constructor
    · rintro ⟨c, mark, hc, hmark, hboth⟩
      obtain ⟨rfl, hholds⟩ := Bool.and_eq_true_iff.mp hboth
      exact ⟨i, c, rfl, hmark, hc, hholds⟩
    · rintro ⟨_, c, hsucc, hmark, hc, hholds⟩
      obtain rfl := Nat.succ.inj hsucc
      exact ⟨c, true, hc, hmark, by rw [hholds]; rfl⟩

theorem marked_or_iff {m' : Marks} (hlength : m.length = m'.length) :
    Marked (List.zipWith or m m') j ↔ Marked m j ∨ Marked m' j := by
  unfold Marked
  rw [List.getElem?_zipWith_eq_some]
  constructor
  · rintro ⟨x, y, hx, hy, hxy⟩
    rcases Bool.or_eq_true_iff.mp hxy with rfl | rfl
    · exact .inl hx
    · exact .inr hy
  · rintro (hx | hy)
    · have hj := (List.getElem?_eq_some_iff.mp hx).1
      exact ⟨true, _, hx, List.getElem?_eq_getElem (hlength ▸ hj), Bool.true_or _⟩
    · have hj := (List.getElem?_eq_some_iff.mp hy).1
      exact ⟨_, true, List.getElem?_eq_getElem (hlength.symm ▸ hj), hy, Bool.or_true _⟩

theorem marked_ends_look {l : Look} :
    Marked ((look l).ends text m) j ↔
      Marked m j ∧ ∃ n, (neighbours none text)[j]? = some n ∧ l.holds n = true := by
  unfold Marked ends
  rw [List.getElem?_zipWith_eq_some]
  constructor
  · rintro ⟨n, mark, hn, hmark, hboth⟩
    obtain ⟨rfl, hholds⟩ := Bool.and_eq_true_iff.mp hboth
    exact ⟨hmark, n, hn, hholds⟩
  · rintro ⟨hmark, n, hn, hholds⟩
    exact ⟨n, true, hn, hmark, by rw [hholds]; rfl⟩

theorem exists_neighbours_iff (before : Option Char) (text : List Char) (j : Nat) :
    (∃ n, (neighbours before text)[j]? = some n ∧ n.2.isNone = true) ↔ j = text.length := by
  induction text generalizing before j with
  | nil => cases j <;> simp [neighbours]
  | cons c text ih =>
    cases j with
    | zero => simp [neighbours]
    | succ j => simpa [neighbours] using ih (some c) j

theorem marked_ends_textEnd :
    Marked ((look .textEnd).ends text m) j ↔ Marked m j ∧ j = text.length := by
  rw [marked_ends_look]
  exact and_congr_right fun _ => exists_neighbours_iff none text j

theorem isNone_fst_neighbours {before : Option Char} {text : List Char} {n : Neighbours}
    (hn : (neighbours before text)[j + 1]? = some n) : n.1.isNone = false := by
  induction text generalizing before j with
  | nil => simp [neighbours] at hn
  | cons c text ih =>
    cases j with
    | zero =>
      cases text <;>
      · obtain rfl := Option.some.inj hn
        rfl
    | succ j => exact ih hn

theorem marked_ends_textStart :
    Marked ((look .textStart).ends text m) j ↔ Marked m j ∧ j = 0 := by
  rw [marked_ends_look]
  refine and_congr_right fun _ => ?_
  cases j with
  | zero => cases text <;> simp [neighbours, Look.holds]
  | succ j =>
    refine iff_of_false ?_ (Nat.succ_ne_zero j)
    rintro ⟨n, hn, hholds⟩
    exact Bool.false_ne_true ((isNone_fst_neighbours hn).symm.trans hholds)

theorem ends_sequence_cons (e : Expr) (es : List Expr) :
    (sequence (e :: es)).ends text m = (sequence es).ends text (e.ends text m) := by
  cases es <;> rfl

theorem isMatch_iff {e : Expr} {name : String} :
    e.isMatch name = true ↔
      ∃ j, Marked (e.ends name.toList (List.replicate (name.length + 1) true)) j := by
  unfold isMatch Marked
  rw [List.any_eq_true]
  constructor
  · rintro ⟨mark, hmem, rfl⟩
    exact List.mem_iff_getElem?.mp hmem
  · rintro ⟨j, hj⟩
    exact ⟨true, List.mem_of_getElem? hj, rfl⟩

section Lengths

theorem length_neighbours (before : Option Char) (text : List Char) :
    (neighbours before text).length = text.length + 1 := by
  induction text generalizing before with
  | nil => rfl
  | cons c text ih => rw [neighbours, List.length_cons, ih, List.length_cons]

theorem iterate_induction {f : Marks → Marks} {P : Marks → Prop} (hf : ∀ m, P m → P (f m)) (n : Nat)
    (hm : P m) : P (iterate f n m) := by
  induction n generalizing m with
  | zero => exact hm
  | succ n ih =>
    unfold iterate
    dsimp only
    split_ifs
    · exact hm
    · exact ih (hf m hm)

/-- To stop where nothing changes makes no difference. -/
theorem iterate_eq (f : Marks → Marks) (n : Nat) (m : Marks) : iterate f n m = f^[n] m := by
  induction n generalizing m with
  | zero => rfl
  | succ n ih =>
    unfold iterate
    dsimp only
    split_ifs with hfixed
    · exact (Function.iterate_fixed hfixed (n + 1)).symm
    · rw [ih, Function.iterate_succ_apply]

/-- There is a mark for each place before and after. -/
theorem length_ends (e : Expr) (hm : m.length = text.length + 1) :
    (e.ends text m).length = text.length + 1 := by
  induction e generalizing m with
  | empty => exact hm
  | set s =>
    unfold ends
    rw [List.length_cons, List.length_zipWith]
    omega
  | look l =>
    unfold ends
    rw [List.length_zipWith, length_neighbours]
    omega
  | concat a b iha ihb => exact ihb (iha hm)
  | alternate a b iha ihb =>
    unfold ends
    rw [List.length_zipWith, iha hm, ihb hm, Nat.min_self]
  | «repeat» e least most ih =>
    unfold ends
    have hleast : (iterate (e.ends text) least m).length = text.length + 1 :=
      iterate_induction (P := fun m => m.length = text.length + 1) (fun m hm => ih hm) least hm
    refine iterate_induction (P := fun m => m.length = text.length + 1) (fun m hm => ?_) _ hleast
    rw [List.length_zipWith, hm, ih hm, Nat.min_self]

end Lengths

section Between

/-- The start of the name and no other place is marked. -/
def start (name : String) : Marks :=
  (look .textStart).ends name.toList (List.replicate (name.length + 1) true)

theorem length_start (name : String) : (start name).length = name.toList.length + 1 := by
  refine length_ends _ ?_
  rw [List.length_replicate, String.length_toList]

theorem marked_start_iff (name : String) {i : Nat} : Marked (start name) i ↔ i = 0 := by
  unfold start
  rw [marked_ends_textStart, and_iff_right_iff_imp]
  rintro rfl
  exact List.getElem?_replicate_of_lt (Nat.succ_pos _)

/-- An expression between the start and the end of a text leads from one to the other. -/
theorem isMatch_between_iff {e : Expr} {name : String} :
    (sequence [look .textStart, e, look .textEnd]).isMatch name = true ↔
      Marked (e.ends name.toList (start name)) name.toList.length := by
  rw [isMatch_iff]
  change (∃ j, Marked ((look .textEnd).ends _ (e.ends name.toList (start name))) j) ↔ _
  simp only [marked_ends_textEnd, exists_eq_right]

end Between

/-- From a marked place on, a word of the language ends at the place. -/
def Reaches (text : List Char) (m : Marks) (L : Language Char) (j : Nat) : Prop :=
  ∃ i word rest, Marked m i ∧ text.drop i = word ++ rest ∧ j = i + word.length ∧ word ∈ L

/-- The expression matches the words of the language and no others. -/
def Takes (e : Expr) (L : Language Char) : Prop :=
  ∀ (text : List Char) (m : Marks) (j : Nat), m.length = text.length + 1 →
    (Marked (e.ends text m) j ↔ Reaches text m L j)

section Languages

variable {a b e : Expr} {K L : Language Char}

theorem reaches_one_iff : Reaches text m 1 j ↔ Marked m j := by
  constructor
  · rintro ⟨i, word, rest, hmarked, -, rfl, hword⟩
    rw [(Language.mem_one word).mp hword]
    exact hmarked
  · intro hmarked
    exact ⟨j, [], text.drop j, hmarked, rfl, rfl, Language.nil_mem_one⟩

/-- Two words one after the other. -/
theorem reaches_mul_iff {between : Marks} (h : ∀ i, Marked between i ↔ Reaches text m L i) :
    Reaches text m (L * K) j ↔ Reaches text between K j := by
  constructor
  · rintro ⟨i, _, rest, hmarked, hdrop, rfl, first, hfirst, second, hsecond, rfl⟩
    refine ⟨i + first.length, second, rest, (h _).mpr ⟨i, first, second ++ rest, hmarked, ?_, rfl,
      hfirst⟩, ?_, ?_, hsecond⟩
    · rw [hdrop]
      exact List.append_assoc ..
    · rw [← List.drop_drop, hdrop]
      simp
    · simp only [List.length_append]
      omega
  · rintro ⟨_, second, rest, hmarked, hdrop, rfl, hsecond⟩
    obtain ⟨i, first, behind, hstart, hfirst, rfl, hmem⟩ := (h _).mp hmarked
    refine ⟨i, first ++ second, rest, hstart, ?_, ?_, Language.append_mem_mul hmem hsecond⟩
    · rw [← List.drop_drop, hfirst, List.drop_left] at hdrop
      rw [hfirst, hdrop, List.append_assoc]
    · rw [List.length_append]
      omega

theorem takes_empty : empty.Takes 1 := fun _ _ _ _ => reaches_one_iff.symm

theorem Takes.concat (ha : a.Takes K) (hb : b.Takes L) : (concat a b).Takes (K * L) := by
  intro text m j hm
  rw [reaches_mul_iff fun i => ha text m i hm]
  exact hb text (a.ends text m) j (length_ends a hm)

theorem Takes.sequence {γ : Type} {f : γ → Expr} {M : γ → Language Char} {l : List γ}
    (h : ∀ c ∈ l, (f c).Takes (M c)) : (sequence (l.map f)).Takes (l.map M).prod := by
  induction l with
  | nil => exact takes_empty
  | cons c l ih =>
    obtain ⟨hc, h⟩ := List.forall_mem_cons.mp h
    intro text m j hm
    rw [List.map_cons, ends_sequence_cons, List.map_cons, List.prod_cons]
    exact (hc.concat (ih h)) text m j hm

/-- The words of one character of a set. -/
def singles (s : CharSet) : Language Char := {word | ∃ c, word = [c] ∧ s.holds c = true}

theorem takes_set (s : CharSet) : (set s).Takes (singles s) := by
  intro text m j _
  rw [marked_ends_set]
  constructor
  · rintro ⟨i, c, rfl, hmarked, hc, hholds⟩
    obtain ⟨hlt, rfl⟩ := List.getElem?_eq_some_iff.mp hc
    exact ⟨i, [text[i]], text.drop (i + 1), hmarked, List.drop_eq_getElem_cons hlt, rfl, _, rfl,
      hholds⟩
  · rintro ⟨i, _, rest, hmarked, hdrop, rfl, c, rfl, hholds⟩
    refine ⟨i, c, rfl, hmarked, ?_, hholds⟩
    rw [← List.head?_drop, hdrop]
    rfl

/-- The languages of characters in a row. -/
theorem mem_prod_singles_iff {sets : List CharSet} {word : List Char} :
    word ∈ (sets.map singles).prod ↔ List.Forall₂ (fun s c => s.holds c = true) sets word := by
  induction sets generalizing word with
  | nil => simp [Language.mem_one]
  | cons s sets ih =>
    rw [List.map_cons, List.prod_cons, List.forall₂_cons_left_iff]
    constructor
    · rintro ⟨_, ⟨c, rfl, hholds⟩, rest, hrest, rfl⟩
      exact ⟨c, rest, hholds, ih.mp hrest, rfl⟩
    · rintro ⟨c, rest, hholds, hrest, rfl⟩
      exact ⟨[c], ⟨c, rfl, hholds⟩, rest, ih.mpr hrest, rfl⟩

/-- The places that are marked and those to which the expression leads from them. -/
def grow (text : List Char) (e : Expr) (m : Marks) : Marks := List.zipWith or m (e.ends text m)

theorem length_grow (hm : m.length = text.length + 1) :
    (grow text e m).length = text.length + 1 := by
  unfold grow
  rw [List.length_zipWith, hm, length_ends e hm, Nat.min_self]

theorem marked_grow_or_iff (hm : m.length = text.length + 1) :
    Marked (grow text e m) j ↔ Marked m j ∨ Marked (e.ends text m) j :=
  marked_or_iff (hm.trans (length_ends e hm).symm)

theorem marked_grow_iff (he : e.Takes L) (hm : m.length = text.length + 1) :
    Marked (grow text e m) j ↔ Reaches text m (1 + L) j := by
  rw [marked_grow_or_iff hm, ← reaches_one_iff, he text m j hm]
  constructor
  · rintro (⟨i, word, rest, hmarked, hdrop, hj, hword⟩ | ⟨i, word, rest, hmarked, hdrop, hj, hword⟩)
    · exact ⟨i, word, rest, hmarked, hdrop, hj, .inl hword⟩
    · exact ⟨i, word, rest, hmarked, hdrop, hj, .inr hword⟩
  · rintro ⟨i, word, rest, hmarked, hdrop, hj, hword | hword⟩
    · exact .inl ⟨i, word, rest, hmarked, hdrop, hj, hword⟩
    · exact .inr ⟨i, word, rest, hmarked, hdrop, hj, hword⟩

theorem marked_grow_iterate_iff (he : e.Takes L) (n : Nat) (hm : m.length = text.length + 1) :
    Marked ((grow text e)^[n] m) j ↔ Reaches text m ((1 + L) ^ n) j := by
  induction n generalizing m with
  | zero => exact reaches_one_iff.symm
  | succ n ih =>
    rw [Function.iterate_succ_apply, ih (length_grow hm), pow_succ']
    exact (reaches_mul_iff fun i => marked_grow_iff he hm).symm

/-- No word of a text is made of more words than the text has characters, but for empty ones. -/
theorem reaches_star_iff :
    Reaches text m (KStar.kstar L) j ↔ Reaches text m ((1 + L) ^ (text.length + 1)) j := by
  constructor
  · rintro ⟨i, word, rest, hmarked, hdrop, hj, hword⟩
    refine ⟨i, word, rest, hmarked, hdrop, hj, ?_⟩
    obtain ⟨words, rfl, hwords⟩ := Language.mem_kstar_iff_exists_nonempty.mp hword
    have hcount : words.length ≤ words.flatten.length := by
      rw [List.length_flatten, ← List.length_map (f := List.length)]
      refine List.length_le_sum_of_one_le _ fun n hn => ?_
      obtain ⟨w, hw, rfl⟩ := List.mem_map.mp hn
      exact List.length_pos_iff.mpr (hwords w hw).2
    have hshort : words.flatten.length ≤ text.length := by
      have hlength := congrArg List.length hdrop
      rw [List.length_drop, List.length_append] at hlength
      omega
    refine Language.mem_pow.mpr
      ⟨words ++ List.replicate (text.length + 1 - words.length) [], ?_, ?_, fun w hw => ?_⟩
    · simp
    · rw [List.length_append, List.length_replicate]
      omega
    · rcases List.mem_append.mp hw with hw | hw
      · exact .inr (hwords w hw).1
      · exact .inl (List.eq_of_mem_replicate hw)
  · rintro ⟨i, word, rest, hmarked, hdrop, hj, hword⟩
    refine ⟨i, word, rest, hmarked, hdrop, hj, ?_⟩
    have hle : (1 + L) ^ (text.length + 1) ≤ KStar.kstar L := by
      refine pow_le_kstar.trans ((kstar_mono (add_le one_le_kstar le_kstar)).trans ?_)
      exact (kstar_idem L).le
    exact hle hword

theorem Takes.star (he : e.Takes L) : (Expr.repeat e 0 none).Takes (KStar.kstar L) := by
  intro text m j hm
  have hends : (Expr.repeat e 0 none).ends text m = (grow text e)^[text.length + 1] m :=
    iterate_eq (grow text e) (text.length + 1) m
  rw [hends, marked_grow_iterate_iff he _ hm, reaches_star_iff]

/-- An expression between the start and the end of a text matches the texts of its language. -/
theorem isMatch_whole_iff (he : e.Takes L) {name : String} :
    (sequence [look .textStart, e, look .textEnd]).isMatch name = true ↔ name.toList ∈ L := by
  rw [isMatch_between_iff, he name.toList (start name) _ (length_start name)]
  constructor
  · rintro ⟨i, word, rest, hi, hdrop, hlength, hword⟩
    obtain rfl := (marked_start_iff name).mp hi
    have hrest : rest = [] := by
      have hlengths := congrArg List.length hdrop
      rw [List.drop_zero, List.length_append] at hlengths
      exact List.eq_nil_of_length_eq_zero (by omega)
    rw [List.drop_zero, hrest, List.append_nil] at hdrop
    rwa [hdrop]
  · intro hword
    refine ⟨0, name.toList, [], (marked_start_iff name).mpr rfl, ?_, (Nat.zero_add _).symm, hword⟩
    rw [List.drop_zero, List.append_nil]

end Languages

end Expr

end MetastoreFederation.Regex
