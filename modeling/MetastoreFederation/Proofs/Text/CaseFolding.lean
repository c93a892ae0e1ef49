import Mathlib.Data.List.Basic
import Mathlib.Data.List.Pairwise
import MetastoreFederation.Text.CaseFold

/-!
Characters that are equal but for case. The variants of a character are all those that have the same
folded form, so being equal but for case is an equivalence.
-/

set_option autoImplicit false
set_option relaxedAutoImplicit false

namespace MetastoreFederation.Text.CaseFold

open Lowercase (lowerChar)
open Lowercase.Table (Run runs)

section Runs

variable {r s : Run} {n : Nat} {c : Char}

/-- The lower-case form of a letter of a run. -/
def lowered (r : Run) (n : Nat) : Nat := ((n : Int) + r.shift).toNat

theorem holds_iff : r.holds n = true ↔ r.first ≤ n ∧ n ≤ r.last ∧ (n - r.first) % r.step = 0 := by
  unfold Run.holds
  simp [and_assoc]

/-- The runs come one after another. -/
theorem pairwise_runs : runs.Pairwise fun r s => r.last < s.first := by
  have hchain : runs.IsChain fun r s => r.last < s.first ∧ s.first ≤ s.last := by decide +kernel
  have htrans : IsTrans Run fun r s => r.last < s.first ∧ s.first ≤ s.last :=
    ⟨fun _ _ _ h h' => ⟨by omega, h'.2⟩⟩
  exact (List.isChain_iff_pairwise.mp hchain).imp And.left

/-- A letter is in one run at most. -/
theorem find?_runs_eq_some (hr : r ∈ runs) (hn : r.holds n = true) :
    (runs.find? fun s => s.holds n) = some r := by
  obtain ⟨before, after, hruns⟩ := List.append_of_mem hr
  have hpairs := pairwise_runs
  rw [hruns] at hpairs
  refine List.find?_eq_some_iff_append.mpr ⟨hn, before, after, hruns, fun s hs => ?_⟩
  have hlast := (List.pairwise_append.mp hpairs).2.2 s hs r List.mem_cons_self
  have hfirst := (holds_iff.mp hn).1
  rw [Bool.not_eq_true', Bool.eq_false_iff]
  intro hsn
  have hle := (holds_iff.mp hsn).2.1
  omega

theorem toNat_ofNat (h : n.isValidChar) : (Char.ofNat n).toNat = n := by
  unfold Char.ofNat
  rw [dif_pos h]
  rfl

/-- The letters of a run are characters outside ASCII, and their lower-case forms are characters. -/
theorem lowered_of_holds (hr : r ∈ runs) (hn : r.holds n = true) :
    128 ≤ n ∧ (Char.ofNat n).toNat = n ∧ (Char.ofNat (lowered r n)).toNat = lowered r n ∧
      (lowered r n : Int) = n + r.shift := by
  have hall : ∀ r ∈ runs, 128 ≤ r.first ∧ r.last < 0x110000 ∧
      (r.last < 0xD800 ∨ 0xDFFF < r.first) ∧
      0 < (r.first : Int) + r.shift ∧ (r.last : Int) + r.shift < 0x110000 ∧
      ((r.last : Int) + r.shift < 0xD800 ∨ 0xDFFF < (r.first : Int) + r.shift) := by decide +kernel
  obtain ⟨hascii, hbound, hplane, hpositive, hbound', hplane'⟩ := hall r hr
  obtain ⟨hfirst, hlast, -⟩ := holds_iff.mp hn
  have hvalid : n.isValidChar := by
    unfold Nat.isValidChar
    omega
  have hvalid' : (lowered r n).isValidChar := by
    unfold lowered Nat.isValidChar
    omega
  refine ⟨by omega, toNat_ofNat hvalid, toNat_ofNat hvalid', ?_⟩
  unfold lowered
  omega

/-- All letters of the run are even, or all are odd. -/
def hasParity (r : Run) : Bool := r.step == 2 || r.first == r.last

theorem mod_two_of_holds (hparity : hasParity r = true) (hn : r.holds n = true) :
    n % 2 = r.first % 2 := by
  obtain ⟨hfirst, hlast, hstep⟩ := holds_iff.mp hn
  rcases Bool.or_eq_true_iff.mp hparity with htwo | hsingle
  · rw [beq_iff_eq.mp htwo] at hstep
    omega
  · have hsame := beq_iff_eq.mp hsingle
    omega

/-- The numbers from `first` to `last`, all of one parity if that is said, are none of the run. -/
def misses (first last : Nat) (parity : Bool) (s : Run) : Bool :=
  last.blt s.first || s.last.blt first || (parity && hasParity s && (first + s.first) % 2 != 0)

/-- A run of one letter that stays as it is. -/
def letter (c : Char) : Run := ⟨c.toNat, c.toNat, 1, 0⟩

/-- What a run holds is lowered to none of the letters that have another form. -/
theorem misses_of_mem : ∀ r ∈ runs, ∀ s ∈ runs ++ furtherForms.map fun f => letter f.1,
    misses (lowered r r.first) (lowered r r.last) (hasParity r) s = true := by
  have hall : (runs.all fun r => (runs ++ furtherForms.map fun f => letter f.1).all
      (misses (lowered r r.first) (lowered r r.last) (hasParity r))) = true := by decide +kernel
  exact fun r hr s hs => List.all_eq_true.mp (List.all_eq_true.mp hall r hr) s hs

theorem not_holds_lowered (hr : r ∈ runs) (hs : s ∈ runs ++ furtherForms.map fun f => letter f.1)
    (hn : r.holds n = true) : s.holds (lowered r n) = false := by
  obtain ⟨hfirst, hlast, -⟩ := holds_iff.mp hn
  have hlowered := (lowered_of_holds hr hn).2.2.2
  have hholds : r.holds r.first = true := holds_iff.mpr ⟨Nat.le_refl _, by omega, by simp⟩
  have hfirst' := (lowered_of_holds hr hholds).2.2.2
  rw [Bool.eq_false_iff]
  intro hsn
  obtain ⟨hsfirst, hslast, -⟩ := holds_iff.mp hsn
  have hmisses := misses_of_mem r hr s hs
  unfold misses at hmisses
  simp only [Bool.or_eq_true, Bool.and_eq_true, Nat.blt_eq, bne_iff_ne] at hmisses
  rcases hmisses with (hbelow | habove) | ⟨⟨hparity, hparity'⟩, hodd⟩
  · unfold lowered at hbelow hsfirst
    omega
  · omega
  · have heven := mod_two_of_holds hparity hn
    have heven' := mod_two_of_holds hparity' hsn
    omega

end Runs

section Fold

variable {c d : Char} {r : Run} {f : Char × Char}

theorem further_of_mem (hf : f ∈ furtherForms) :
    128 ≤ f.1.toNat ∧ furtherForms.lookup f.1 = some f.2 ∧ fold f.2 = f.2 := by
  have hall : ∀ f ∈ furtherForms,
      128 ≤ f.1.toNat ∧ furtherForms.lookup f.1 = some f.2 ∧ fold f.2 = f.2 := by decide +kernel
  exact hall f hf

theorem fold_of_further (hf : f ∈ furtherForms) : fold f.1 = f.2 := by
  obtain ⟨hascii, hlookup, -⟩ := further_of_mem hf
  unfold fold
  rw [if_neg (by omega), hlookup]
  rfl

/-- No further form is a letter of a run. -/
theorem not_holds_further (hf : f ∈ furtherForms) (hr : r ∈ runs) :
    r.holds f.1.toNat = false := by
  have hall : (furtherForms.all fun f => runs.all fun r => !r.holds f.1.toNat) = true := by
    decide +kernel
  simpa using List.all_eq_true.mp (List.all_eq_true.mp hall f hf) r hr

theorem fold_of_holds (hr : r ∈ runs) (hc : r.holds c.toNat = true) :
    fold c = .ofNat (lowered r c.toNat) := by
  have hascii := (lowered_of_holds hr hc).1
  have hlookup : furtherForms.lookup c = none := by
    refine List.lookup_eq_none_iff.mpr fun f hf => bne_iff_ne.mpr fun heq => ?_
    have hnone := not_holds_further hf hr
    rw [← heq, hc] at hnone
    exact absurd hnone (by decide)
  unfold fold lowerChar
  rw [if_neg (by omega), if_neg (by omega), hlookup, find?_runs_eq_some hr hc]
  rfl

/-- How a character is folded. -/
theorem fold_cases (c : Char) :
    c.toNat < 128 ∧ fold c = c.toLower ∨ (c, fold c) ∈ furtherForms ∨
      (∃ r ∈ runs, r.holds c.toNat = true ∧ fold c = .ofNat (lowered r c.toNat)) ∨ fold c = c := by
  by_cases hascii : c.toNat < 128
  · exact .inl ⟨hascii, if_pos hascii⟩
  · cases hlookup : furtherForms.lookup c with
    | some k =>
      obtain ⟨before, after, hforms, -⟩ := List.lookup_eq_some_iff.mp hlookup
      have hmem : (c, k) ∈ furtherForms := by
        rw [hforms]
        exact List.mem_append_right _ List.mem_cons_self
      refine .inr (.inl ?_)
      rwa [fold_of_further hmem]
    | none =>
      cases hfind : runs.find? fun r => r.holds c.toNat with
      | some r =>
        have hr := List.mem_of_find?_eq_some hfind
        have hc := List.find?_some hfind
        exact .inr (.inr (.inl ⟨r, hr, hc, fold_of_holds hr hc⟩))
      | none =>
        refine .inr (.inr (.inr ?_))
        unfold fold lowerChar
        rw [if_neg hascii, if_neg hascii, hlookup, hfind]
        rfl

/-- ASCII letters have two forms. -/
theorem ascii_cases (hc : c.toNat < 128) :
    c.toLower.toNat < 128 ∧ c.toLower.toLower = c.toLower ∧
      c.toLower.toUpper.toNat < 128 ∧ c.toLower.toUpper.toLower = c.toLower ∧
      (c = c.toLower ∨ c = c.toLower.toUpper) := by
  have hall : ∀ n < 128, (fun c : Char => c.toLower.toNat < 128 ∧ c.toLower.toLower = c.toLower ∧
      c.toLower.toUpper.toNat < 128 ∧ c.toLower.toUpper.toLower = c.toLower ∧
      (c = c.toLower ∨ c = c.toLower.toUpper)) (.ofNat n) := by decide +kernel
  have h := hall c.toNat hc
  rwa [Char.ofNat_toNat] at h

theorem fold_lowered (hr : r ∈ runs) {n : Nat} (hn : r.holds n = true) :
    fold (.ofNat (lowered r n)) = .ofNat (lowered r n) := by
  have hall : ∀ r ∈ runs, 128 ≤ lowered r r.first ∨
      r.first = r.last ∧ fold (.ofNat (lowered r r.first)) = .ofNat (lowered r r.first) := by
    decide +kernel
  obtain ⟨-, -, htoNat, -⟩ := lowered_of_holds hr hn
  rcases fold_cases (.ofNat (lowered r n)) with ⟨hascii, -⟩ | hfurther | ⟨s, hs, hholds, -⟩ | hsame
  · -- Only a letter that is alone in its run is lowered to ASCII.
    rw [htoNat] at hascii
    obtain ⟨hfirst, hlast, -⟩ := holds_iff.mp hn
    rcases hall r hr with hbeyond | ⟨hsingle, hfold⟩
    · unfold lowered at hbeyond hascii
      omega
    · obtain rfl : n = r.first := by omega
      exact hfold
  · have hnone := not_holds_lowered hr
      (List.mem_append_right _ (List.mem_map_of_mem hfurther)) hn
    rw [Bool.eq_false_iff] at hnone
    refine absurd (holds_iff.mpr ?_) hnone
    unfold letter
    dsimp only
    rw [htoNat]
    exact ⟨Nat.le_refl _, Nat.le_refl _, Nat.mod_one _⟩
  · have hnone := not_holds_lowered hr (List.mem_append_left _ hs) hn
    rw [htoNat, hnone] at hholds
    exact absurd hholds Bool.false_ne_true
  · exact hsame

theorem fold_fold (c : Char) : fold (fold c) = fold c := by
  rcases fold_cases c with ⟨hascii, hfold⟩ | hfurther | ⟨r, hr, hc, hfold⟩ | hsame
  · obtain ⟨hascii', hlower, -⟩ := ascii_cases hascii
    rw [hfold]
    exact (if_pos hascii').trans hlower
  · exact (further_of_mem hfurther).2.2
  · rw [hfold]
    exact fold_lowered hr hc
  · rw [hsame, hsame]

theorem fold_toUpper (hc : fold c = c) : fold c.toUpper = c := by
  by_cases hascii : c.toNat < 128
  · obtain ⟨-, -, hascii', hlower, -⟩ := ascii_cases hascii
    have hsame : c.toLower = c := (if_pos hascii).symm.trans hc
    rw [hsame] at hascii' hlower
    exact (if_pos hascii').trans hlower
  · have hupper : c.toUpper = c := by
      unfold Char.toUpper
      refine dif_neg fun hletter => hascii ?_
      have hle : c.val.toNat ≤ 122 := UInt32.le_iff_toNat_le.mp hletter.2
      exact Nat.lt_of_le_of_lt hle (by decide)
    rw [hupper, hc]

/-- The variants of a character are those that are folded to the same one. -/
theorem mem_variants_iff : d ∈ variants c ↔ fold d = fold c := by
  have hmem : d ∈ variants c ↔ d = fold c ∨ d = (fold c).toUpper ∨
      (∃ r ∈ runs, ∃ n, n = ((fold c).toNat - r.shift).toNat ∧ r.holds n = true ∧ d = .ofNat n) ∨
      (d, fold c) ∈ furtherForms := by
    unfold variants
    simp only [List.mem_append, List.mem_cons, List.mem_filterMap, Option.ite_none_right_eq_some,
      Option.some.injEq, or_assoc]
    refine or_congr_right (or_congr_right (or_congr ?_ ?_))
    · constructor
      · rintro ⟨r, hr, hholds, rfl⟩
        exact ⟨r, hr, _, rfl, hholds, rfl⟩
      · rintro ⟨r, hr, _, rfl, hholds, rfl⟩
        exact ⟨r, hr, hholds, rfl⟩
    · constructor
      · rintro ⟨⟨key, value⟩, hf, rfl, rfl⟩
        exact hf
      · intro hf
        exact ⟨_, hf, rfl, rfl⟩
  rw [hmem]
  constructor
  · rintro (rfl | rfl | ⟨r, hr, n, hn, hholds, rfl⟩ | hfurther)
    · exact fold_fold c
    · exact fold_toUpper (fold_fold c)
    · obtain ⟨hascii, htoNat, htoNat', hlowered⟩ := lowered_of_holds hr hholds
      have hc : r.holds (Char.ofNat n).toNat = true := by rwa [htoNat]
      rw [fold_of_holds hr hc, htoNat]
      have hsame : lowered r n = (fold c).toNat := by omega
      rw [hsame, Char.ofNat_toNat]
    · exact fold_of_further hfurther
  · intro hfold
    rw [← hfold]
    rcases fold_cases d with ⟨hascii, hlower⟩ | hfurther | ⟨r, hr, hd, hlowered⟩ | hsame
    · rw [hlower]
      rcases (ascii_cases hascii).2.2.2.2 with hsame | hupper
      · exact .inl hsame
      · exact .inr (.inl hupper)
    · exact .inr (.inr (.inr hfurther))
    · refine .inr (.inr (.inl ⟨r, hr, d.toNat, ?_, hd, (Char.ofNat_toNat d).symm⟩))
      obtain ⟨-, -, htoNat, hvalue⟩ := lowered_of_holds hr hd
      rw [hlowered, htoNat]
      omega
    · exact .inl hsame.symm

end Fold

end MetastoreFederation.Text.CaseFold
