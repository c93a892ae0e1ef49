import Mathlib.Data.List.Forall2
import Mathlib.Data.List.Nodup

/-!
What is known of lists and of attempts, whatever they are about: lists whose elements have keys of
their own, lists that are made element by element or sorted by size, and attempts in a row.
-/

set_option autoImplicit false
set_option relaxedAutoImplicit false

namespace MetastoreFederation

variable {α β : Type}

section Keys

variable {key : α → String} {l : List α}

/-- A key finds the one element that has it. -/
theorem find?_eq_some_iff_of_nodup (hnodup : (l.map key).Nodup) {name : String} {a : α} :
    l.find? (fun b => key b == name) = some a ↔ a ∈ l ∧ key a = name := by
  constructor
  · intro hfind
    have hname := List.find?_some hfind
    exact ⟨List.mem_of_find?_eq_some hfind, beq_iff_eq.mp hname⟩
  · rintro ⟨ha, rfl⟩
    cases hfind : l.find? fun b => key b == key a with
    | none => exact absurd (beq_self_eq_true (key a)) (List.find?_eq_none.mp hfind a ha)
    | some b =>
      have hname := List.find?_some hfind
      have hb := List.mem_of_find?_eq_some hfind
      rw [List.inj_on_of_nodup_map hnodup hb ha (beq_iff_eq.mp hname)]

theorem lookup_map_snd (f : α → β) (entries : List (String × α)) (name : String) :
    (entries.map fun e => (e.1, f e.2)).lookup name = (entries.lookup name).map f := by
  induction entries with
  | nil => rfl
  | cons e entries ih =>
    obtain ⟨key, a⟩ := e
    rw [List.map_cons, List.lookup_cons, List.lookup_cons]
    cases name == key with
    | true => rfl
    | false => exact ih

end Keys

/-- Elements that contribute nothing may be left out beforehand. -/
theorem flatMap_filter_eq {f : α → List β} {p : α → Bool} (h : ∀ a, p a = false → f a = [])
    (l : List α) : (l.filter p).flatMap f = l.flatMap f := by
  induction l with
  | nil => rfl
  | cons a l ih =>
    rw [List.filter_cons, List.flatMap_cons]
    split_ifs with ha
    · rw [List.flatMap_cons, ih]
    · rw [h a (Bool.not_eq_true _ ▸ ha), List.nil_append, ih]

/-- What two functions make of one list is related if they keep the same elements. -/
theorem forall₂_filterMap {R : β → β → Prop} {f g : α → Option β} {l : List α}
    (hsame : ∀ a ∈ l, (f a).isSome = (g a).isSome)
    (hrelated : ∀ a ∈ l, ∀ x y, f a = some x → g a = some y → R x y) :
    List.Forall₂ R (l.filterMap f) (l.filterMap g) := by
  induction l with
  | nil => exact .nil
  | cons a l ih =>
    obtain ⟨ha, hsame⟩ := List.forall_mem_cons.mp hsame
    obtain ⟨hrelated_a, hrelated⟩ := List.forall_mem_cons.mp hrelated
    rw [List.filterMap_cons, List.filterMap_cons]
    cases hf : f a with
    | none =>
      rw [hf] at ha
      rw [Option.isSome_eq_false_iff.mp ha.symm |> Option.isNone_iff_eq_none.mp]
      exact ih hsame hrelated
    | some x =>
      rw [hf] at ha
      obtain ⟨y, hg⟩ := Option.isSome_iff_exists.mp ha.symm
      rw [hg]
      exact .cons (hrelated_a x y hf hg) (ih hsame hrelated)

section Sorting

variable (size : α → Nat)

theorem size_le_trans (x y z : α) (hxy : decide (size x ≤ size y) = true)
    (hyz : decide (size y ≤ size z) = true) : decide (size x ≤ size z) = true := by
  simp only [decide_eq_true_eq] at hxy hyz ⊢
  omega

theorem size_le_total (x y : α) :
    (decide (size x ≤ size y) || decide (size y ≤ size x)) = true := by
  simp only [Bool.or_eq_true, decide_eq_true_eq]
  omega

theorem pairwise_mergeSort_le (l : List α) :
    (l.mergeSort fun x y => size x ≤ size y).Pairwise fun x y => size x ≤ size y := by
  simpa only [decide_eq_true_eq] using
    List.pairwise_mergeSort (size_le_trans size) (size_le_total size) l

end Sorting

section Attempts

theorem exists_ok_of_isSome {ε : Type} {x : Except ε α} (h : x.toOption.isSome = true) :
    ∃ a, x = .ok a := by
  cases x with
  | error e => exact absurd h Bool.false_ne_true
  | ok a => exact ⟨a, rfl⟩

/-- Two attempts in a row succeed just where both do. -/
theorem bind_eq_ok_iff {ε : Type} {x : Except ε α} {next : α → Except ε β} {b : β} :
    x >>= next = .ok b ↔ ∃ a, x = .ok a ∧ next a = .ok b := by
  cases x with
  | error e => exact ⟨fun h => (nomatch h), fun ⟨_, h, _⟩ => (nomatch h)⟩
  | ok a =>
    refine ⟨fun h => ⟨a, rfl, h⟩, ?_⟩
    rintro ⟨_, ha, h⟩
    cases ha
    exact h

/-- What is written one after another is read so, if each can be read. -/
theorem mapM_map_eq_ok {ε : Type} {read : β → Except ε α} {write : α → β} {members : List α}
    (hread : ∀ x ∈ members, read (write x) = .ok x) :
    (members.map write).mapM read = .ok members := by
  induction members with
  | nil => rfl
  | cons x members ih =>
    obtain ⟨hx, hread⟩ := List.forall_mem_cons.mp hread
    rw [List.map_cons, List.mapM_cons, hx, ih hread]
    rfl

/-- Where all attempts give something, these are what was made of the elements. -/
theorem map_eq_of_mapM {f : α → Option β} {l : List α} {made : List β}
    (h : l.mapM f = some made) : l.map f = made.map some := by
  induction l generalizing made with
  | nil =>
    cases h
    rfl
  | cons a l ih =>
    rw [List.mapM_cons] at h
    obtain ⟨b, hb, h⟩ := Option.bind_eq_some_iff.mp h
    obtain ⟨rest, hrest, h⟩ := Option.bind_eq_some_iff.mp h
    cases h
    rw [List.map_cons, List.map_cons, hb, ih hrest]

theorem exists_mem_iff_of_mapM {f : α → Option β} {l : List α} {made : List β} {p : β → Prop}
    (h : l.mapM f = some made) : (∃ b ∈ made, p b) ↔ ∃ a ∈ l, ∃ b, f a = some b ∧ p b := by
  calc (∃ b ∈ made, p b)
    _ ↔ ∃ o ∈ made.map some, ∃ b, o = some b ∧ p b := by simp
    _ ↔ ∃ a ∈ l, ∃ b, f a = some b ∧ p b := by
      rw [← map_eq_of_mapM h]
      simp only [List.mem_map, exists_exists_and_eq_and]

theorem isSome_of_mapM {f : α → Option β} {l : List α} {made : List β} (h : l.mapM f = some made) :
    ∀ a ∈ l, (f a).isSome := by
  intro a ha
  have hmem := List.mem_map_of_mem (f := f) ha
  rw [map_eq_of_mapM h] at hmem
  obtain ⟨b, -, hb⟩ := List.mem_map.mp hmem
  rw [← hb]
  rfl

end Attempts

end MetastoreFederation
