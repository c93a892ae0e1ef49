import Mathlib.Data.List.Pairwise
import MetastoreFederation.Proofs.Routing.History
import MetastoreFederation.Proofs.Text.Beginnings

/-!
Who owns a name, found by looking at one registered binding after another and without the indexes of
a snapshot. What a snapshot finds by its indexes is the same, in every registry.
-/

set_option autoImplicit false
set_option relaxedAutoImplicit false

namespace MetastoreFederation.Routing

open Metastore Text
open Snapshot (prefixSize ownedNames)

variable {κ : Type}

/-- A binding claims a name: it has a prefix that begins the name, or it is federated and lists the
name in some case. -/
def Claims (resolution : Resolution) (b : Binding κ) (database : String) : Prop :=
  match resolution with
  | .prefixed => b.databasePrefix ≠ "" ∧ AsciiCase.Begins b.databasePrefix database
  | .manual => b.isPrimary = false ∧
      ∃ name ∈ b.definition.listedDatabases, Lowercase.lower name = Lowercase.lower database

/-- The owner of a name. Of those that claim it by a prefix this is the one with the longest, and
the one registered first if there are more; by the lists it is the only one. -/
def Owns (resolution : Resolution) (bindings : List (Binding κ)) (database : String)
    (b : Binding κ) : Prop :=
  match resolution with
  | .prefixed => ∃ before after, bindings = before ++ b :: after ∧ Claims .prefixed b database ∧
      (∀ c ∈ before, Claims .prefixed c database → prefixSize c < prefixSize b) ∧
      ∀ c ∈ after, Claims .prefixed c database → prefixSize c ≤ prefixSize b
  | .manual => b ∈ bindings ∧ Claims .manual b database ∧
      ∀ c ∈ bindings, Claims .manual c database → c = b

/-- What a scan of the registered bindings comes to: the owner of the name, the primary where nobody
claims the name, or an error where there is no primary either. -/
inductive Scan (resolution : Resolution) (bindings : List (Binding κ)) (database : String) :
    Except RoutingError (Binding κ) → Prop
  | owner {b : Binding κ} (owns : Owns resolution bindings database b) :
      Scan resolution bindings database (.ok b)
  | primary {b : Binding κ} (unclaimed : ∀ c ∈ bindings, ¬ Claims resolution c database)
      (registered : b ∈ bindings) (role : b.isPrimary = true) :
      Scan resolution bindings database (.ok b)
  | none (unclaimed : ∀ c ∈ bindings, ¬ Claims resolution c database)
      (federated : ∀ b ∈ bindings, b.isPrimary = false) :
      Scan resolution bindings database (.error (.noPrimary database))

theorem claims_of_owns {resolution : Resolution} {bindings : List (Binding κ)} {database : String}
    {b : Binding κ}
    (howns : Owns resolution bindings database b) :
    b ∈ bindings ∧ Claims resolution b database := by
  cases resolution with
  | prefixed =>
    obtain ⟨before, after, rfl, hclaims, -⟩ := howns
    exact ⟨List.mem_append_right _ List.mem_cons_self, hclaims⟩
  | manual => exact ⟨howns.1, howns.2.1⟩

section SortedSearch

variable {α : Type} (size : α → Nat)

private theorem pairwise_mergeSort_size (l : List α) :
    (l.mergeSort fun x y => size y ≤ size x).Pairwise fun x y => size y ≤ size x := by
  have hsorted : (l.mergeSort fun x y => decide (size y ≤ size x)).Pairwise
      fun x y => decide (size y ≤ size x) = true := by
    apply List.pairwise_mergeSort
    · intro x y z hxy hyz
      simp only [decide_eq_true_eq] at hxy hyz ⊢
      omega
    · intro x y
      simp only [Bool.or_eq_true, decide_eq_true_eq]
      omega
  simpa only [decide_eq_true_eq] using hsorted

private theorem pair_sublist_mergeSort_size {l : List α} {a b : α} (hsize : size b ≤ size a)
    (hpair : [a, b].Sublist l) : [a, b].Sublist (l.mergeSort fun x y => size y ≤ size x) := by
  apply List.pair_sublist_mergeSort _ _ _ hpair
  · intro x y z hxy hyz
    simp only [decide_eq_true_eq] at hxy hyz ⊢
    omega
  · intro x y
    simp only [Bool.or_eq_true, decide_eq_true_eq]
    omega
  · exact decide_eq_true hsize

/-- In a list without repetitions nothing with the property stands before the first that has it. -/
private theorem not_pair_sublist_of_first {l before after : List α} {p : α → Prop} {a x : α}
    (hnodup : l.Nodup) (hl : l = before ++ a :: after) (hfirst : ∀ c ∈ before, ¬ p c)
    (hx : p x) : ¬ [x, a].Sublist l := by
  intro hpair
  rw [hl] at hpair hnodup
  have hafter : a ∉ after := (List.nodup_cons.mp (List.nodup_append.mp hnodup).2.1).1
  have hskip : ∀ {front : List α}, (∀ c ∈ front, ¬ p c) → [x, a].Sublist (front ++ a :: after) →
      [x, a].Sublist (a :: after) := by
    intro front
    induction front with
    | nil => exact fun _ h => h
    | cons c front ih =>
      intro hnone hsub
      cases hsub with
      | cons _ hsub => exact ih (fun d hd => hnone d (List.mem_cons_of_mem c hd)) hsub
      | cons_cons _ _ => exact absurd hx (hnone x List.mem_cons_self)
  have hrest := hskip hfirst hpair
  cases hrest with
  | cons _ hsub => exact hafter (hsub.subset (List.mem_cons_of_mem x List.mem_cons_self))
  | cons_cons _ hsub => exact hafter (hsub.subset List.mem_cons_self)

section Found

variable {l : List α} {p : α → Bool} {a : α}

private theorem mem_of_find?_mergeSort
    (hfind : (l.mergeSort fun x y => size y ≤ size x).find? p = some a) : a ∈ l :=
  List.mem_mergeSort.mp (List.mem_of_find?_eq_some hfind)

/-- What is found first after the sorting is one of the greatest. -/
private theorem size_le_of_find?_mergeSort
    (hfind : (l.mergeSort fun x y => size y ≤ size x).find? p = some a) {c : α} (hc : c ∈ l)
    (hpc : p c = true) : size c ≤ size a := by
  have hsorted := pairwise_mergeSort_size size l
  have hc' : c ∈ l.mergeSort fun x y => decide (size y ≤ size x) := List.mem_mergeSort.mpr hc
  obtain ⟨-, front, back, hsplit, hfirst⟩ := List.find?_eq_some_iff_append.mp hfind
  rw [hsplit] at hc' hsorted
  rcases List.mem_append.mp hc' with hfront | hback
  · exact absurd (hfirst c hfront) (by simp [hpc])
  · rcases List.mem_cons.mp hback with rfl | hback
    · exact Nat.le_refl _
    · exact List.rel_of_pairwise_cons (List.pairwise_append.mp hsorted).2.1 hback

/-- What stands before it in the list is smaller, or it would stand before it after the sorting. -/
private theorem size_lt_of_find?_mergeSort (hnodup : l.Nodup)
    (hfind : (l.mergeSort fun x y => size y ≤ size x).find? p = some a) {c : α}
    (hpair : [c, a].Sublist l) (hpc : p c = true) : size c < size a := by
  have hnodup' : (l.mergeSort fun x y => decide (size y ≤ size x)).Nodup :=
    (List.mergeSort_perm l _).nodup_iff.mpr hnodup
  obtain ⟨-, front, back, hsplit, hfirst⟩ := List.find?_eq_some_iff_append.mp hfind
  have hfirst' : ∀ d ∈ front, ¬ p d = true := fun d hd hpd => by simpa [hpd] using hfirst d hd
  by_contra hlt
  have hpair' := pair_sublist_mergeSort_size size (Nat.le_of_not_lt hlt) hpair
  exact not_pair_sublist_of_first (p := fun x => p x = true) hnodup' hsplit hfirst' hpc hpair'

end Found

/-- The search for a property among the elements that were sorted by their sizes, greatest first,
finds the first of the greatest ones that have it. -/
private theorem find?_mergeSort_eq_some_iff {l : List α} (hnodup : l.Nodup) (p : α → Bool) (a : α) :
    (l.mergeSort fun x y => size y ≤ size x).find? p = some a ↔
      ∃ before after, l = before ++ a :: after ∧ p a = true ∧
        (∀ c ∈ before, p c = true → size c < size a) ∧
        ∀ c ∈ after, p c = true → size c ≤ size a := by
  constructor
  · intro hfind
    obtain ⟨before, after, hl⟩ := List.append_of_mem (mem_of_find?_mergeSort size hfind)
    refine ⟨before, after, hl, List.find?_some hfind, fun c hc hpc => ?_, fun c hc hpc => ?_⟩
    · refine size_lt_of_find?_mergeSort size hnodup hfind ?_ hpc
      rw [hl]
      exact (List.singleton_sublist.mpr hc).append (List.singleton_sublist.mpr List.mem_cons_self)
    · refine size_le_of_find?_mergeSort size hfind ?_ hpc
      rw [hl]
      exact List.mem_append_right _ (List.mem_cons_of_mem a hc)
  · rintro ⟨before, after, hl, ha, hbefore, hafter⟩
    have hmem : a ∈ l := by
      rw [hl]
      exact List.mem_append_right _ List.mem_cons_self
    cases hfind : (l.mergeSort fun x y => decide (size y ≤ size x)).find? p with
    | none => exact absurd ha (List.find?_eq_none.mp hfind a (List.mem_mergeSort.mpr hmem))
    | some b =>
      have hb : p b = true := List.find?_some hfind
      have hsize := size_le_of_find?_mergeSort size hfind hmem ha
      have hbmem := mem_of_find?_mergeSort size hfind
      rw [hl, List.mem_append, List.mem_cons] at hbmem
      rcases hbmem with hin | rfl | hin
      · exact absurd (hbefore b hin hb) (Nat.not_lt.mpr hsize)
      · rfl
      · have hpair : [a, b].Sublist l := by
          rw [hl]
          exact (List.cons_sublist_cons.mpr (List.singleton_sublist.mpr hin)).trans
            (List.sublist_append_right _ _)
        have hlt := size_lt_of_find?_mergeSort size hnodup hfind hpair ha
        exact absurd (hafter b hin hb) (Nat.not_le.mpr hlt)

end SortedSearch

/-- The listed databases are indexed just under the bindings that claim them. -/
theorem mem_byDatabase_iff {bindings : List (Binding κ)} {database : String} {b : Binding κ} :
    (Lowercase.lower database, b) ∈ (Snapshot.build bindings).byDatabase ↔
      b ∈ bindings ∧ Claims .manual b database := by
  have howned : Lowercase.lower database ∈ ownedNames b ↔ Claims .manual b database := by
    unfold ownedNames Claims
    cases b.isPrimary with
    | true => simp
    | false => simp [List.mem_map]
  rw [← howned]
  simp only [Snapshot.build, List.mem_reverse, List.mem_flatMap, List.mem_map, Prod.mk.injEq]
  constructor
  · rintro ⟨c, hc, name, hname, rfl, rfl⟩
    exact ⟨hc, hname⟩
  · rintro ⟨hb, hname⟩
    exact ⟨b, hb, _, hname, rfl, rfl⟩

namespace Registry.Coherent

variable {r : Registry κ}

theorem nodup_bindings (h : r.Coherent) : r.snapshot.bindings.Nodup :=
  List.Nodup.of_map _ h.nodup_names

theorem compatible_of_ne (h : r.Coherent) {b c : Binding κ} (hb : b ∈ r.snapshot.bindings)
    (hc : c ∈ r.snapshot.bindings) (hne : b ≠ c) :
    Compatible r.resolution b.definition c.definition := by
  have hsymm : Std.Symm fun b c : Binding κ =>
      Compatible r.resolution b.definition c.definition := ⟨fun _ _ h => h.symm⟩
  exact h.compatible.forall hb hc hne

theorem claims_prefixed_iff (h : r.Coherent) (hresolution : r.resolution = .prefixed)
    {database : String} {b : Binding κ} (hb : b ∈ r.snapshot.bindings) :
    Claims .prefixed b database ↔ b.definition.databasePrefix ≠ "" ∧
      AsciiCase.Begins b.definition.databasePrefix database := by
  have hlead : b.databasePrefix = b.definition.databasePrefix := by
    rw [h.databasePrefix b hb, hresolution]
    rfl
  unfold Claims
  rw [hlead]

theorem prefixSize_eq (h : r.Coherent) (hresolution : r.resolution = .prefixed) {b : Binding κ}
    (hb : b ∈ r.snapshot.bindings) :
    prefixSize b = b.definition.databasePrefix.utf8ByteSize := by
  unfold prefixSize
  rw [h.databasePrefix b hb, hresolution]
  rfl

/-- There is one primary at most. -/
theorem primary_eq_some_iff (h : r.Coherent) {b : Binding κ} :
    r.snapshot.primary = some b ↔ b ∈ r.snapshot.bindings ∧ b.isPrimary = true := by
  rw [h.primary_eq]
  constructor
  · intro hfind
    exact ⟨List.mem_of_find?_eq_some hfind, List.find?_some hfind⟩
  · rintro ⟨hb, hprimary⟩
    cases hfind : r.snapshot.bindings.find? Binding.isPrimary with
    | none => exact absurd hprimary (List.find?_eq_none.mp hfind b hb)
    | some c =>
      have hc := List.mem_of_find?_eq_some hfind
      have hprimary' : c.isPrimary = true := List.find?_some hfind
      by_contra hne
      have hcompatible := h.compatible_of_ne hc hb fun heq => hne (congrArg some heq)
      exact hcompatible.primaries ⟨hprimary', hprimary⟩

theorem primary_eq_none_iff (h : r.Coherent) :
    r.snapshot.primary = none ↔ ∀ b ∈ r.snapshot.bindings, b.isPrimary = false := by
  rw [h.primary_eq, List.find?_eq_none]
  simp only [Bool.not_eq_true]

private theorem ownerByPrefix?_eq_find? (h : r.Coherent) (database : String) :
    r.snapshot.ownerByPrefix? database =
      ((r.snapshot.bindings.filter fun b => b.databasePrefix != "").mergeSort
        fun a b => prefixSize b ≤ prefixSize a).find?
          fun b => (AsciiCase.dropStartOf? b.databasePrefix database).isSome := by
  unfold Snapshot.ownerByPrefix?
  rw [h.built]
  rfl

private theorem claims_prefixed_iff_isSome (b : Binding κ) (database : String) :
    Claims .prefixed b database ↔ (b.databasePrefix != "") = true ∧
      (AsciiCase.dropStartOf? b.databasePrefix database).isSome = true := by
  rw [AsciiCase.isSome_dropStartOf?_iff, bne_iff_ne]
  rfl

theorem ownerByPrefix?_eq_some_iff (h : r.Coherent) {database : String} {b : Binding κ} :
    r.snapshot.ownerByPrefix? database = some b ↔
      Owns .prefixed r.snapshot.bindings database b := by
  rw [h.ownerByPrefix?_eq_find?, find?_mergeSort_eq_some_iff prefixSize (h.nodup_bindings.filter _)]
  constructor
  · rintro ⟨front, back, hsplit, hb, hfront, hback⟩
    obtain ⟨before, rest, hbindings, rfl, hrest⟩ := List.filter_eq_append_iff.mp hsplit
    obtain ⟨skipped, after, rfl, hskipped, hlead, rfl⟩ := List.filter_eq_cons_iff.mp hrest
    refine ⟨before ++ skipped, after, by rw [hbindings, List.append_assoc],
      (claims_prefixed_iff_isSome b database).mpr ⟨hlead, hb⟩, ?_, ?_⟩
    · intro c hc hclaims
      obtain ⟨hlead', hc'⟩ := (claims_prefixed_iff_isSome c database).mp hclaims
      rcases List.mem_append.mp hc with hin | hin
      · exact hfront c (List.mem_filter.mpr ⟨hin, hlead'⟩) hc'
      · exact absurd hlead' (hskipped c hin)
    · intro c hc hclaims
      obtain ⟨hlead', hc'⟩ := (claims_prefixed_iff_isSome c database).mp hclaims
      exact hback c (List.mem_filter.mpr ⟨hc, hlead'⟩) hc'
  · rintro ⟨before, after, hbindings, hclaims, hbefore, hafter⟩
    obtain ⟨hlead, hb⟩ := (claims_prefixed_iff_isSome b database).mp hclaims
    refine ⟨before.filter fun c => c.databasePrefix != "",
      after.filter fun c => c.databasePrefix != "", ?_, hb, ?_, ?_⟩
    · rw [hbindings, List.filter_append, List.filter_cons, if_pos hlead]
    · intro c hc hc'
      obtain ⟨hin, hlead'⟩ := List.mem_filter.mp hc
      exact hbefore c hin ((claims_prefixed_iff_isSome c database).mpr ⟨hlead', hc'⟩)
    · intro c hc hc'
      obtain ⟨hin, hlead'⟩ := List.mem_filter.mp hc
      exact hafter c hin ((claims_prefixed_iff_isSome c database).mpr ⟨hlead', hc'⟩)

theorem ownerByPrefix?_eq_none_iff (h : r.Coherent) {database : String} :
    r.snapshot.ownerByPrefix? database = none ↔
      ∀ c ∈ r.snapshot.bindings, ¬ Claims .prefixed c database := by
  rw [h.ownerByPrefix?_eq_find?, List.find?_eq_none]
  simp only [List.mem_mergeSort, List.mem_filter, claims_prefixed_iff_isSome, not_and, and_imp]

/-- The databases of different federated metastores are distinct, so one of them claims a name. -/
theorem eq_of_claims_manual (h : r.Coherent) (hresolution : r.resolution = .manual)
    {database : String} {b c : Binding κ} (hb : b ∈ r.snapshot.bindings)
    (hc : c ∈ r.snapshot.bindings) (hclaims : Claims .manual b database)
    (hclaims' : Claims .manual c database) : c = b := by
  obtain ⟨hfederated, name, hname, hlower⟩ := hclaims
  obtain ⟨hfederated', name', hname', hlower'⟩ := hclaims'
  by_contra hne
  have hcompatible := h.compatible_of_ne hb hc (Ne.symm hne)
  have hdisjoint := hcompatible.databases hresolution hfederated hfederated'
  have hin : Lowercase.lower database ∈ b.definition.listedDatabases.map Lowercase.lower :=
    List.mem_map.mpr ⟨name, hname, hlower⟩
  exact hdisjoint hin (List.mem_map.mpr ⟨name', hname', hlower'⟩)

private theorem mem_byDatabase_iff (h : r.Coherent) {database : String} {b : Binding κ} :
    (Lowercase.lower database, b) ∈ r.snapshot.byDatabase ↔
      b ∈ r.snapshot.bindings ∧ Claims .manual b database := by
  have hindex : (Lowercase.lower database, b) ∈ (Snapshot.build r.snapshot.bindings).byDatabase ↔
      b ∈ r.snapshot.bindings ∧ Claims .manual b database := Routing.mem_byDatabase_iff
  rwa [← h.built] at hindex

theorem ownerByDatabase?_eq_none_iff (h : r.Coherent) {database : String} :
    r.snapshot.ownerByDatabase? database = none ↔
      ∀ c ∈ r.snapshot.bindings, ¬ Claims .manual c database := by
  unfold Snapshot.ownerByDatabase?
  rw [List.lookup_eq_none_iff]
  constructor
  · intro hnone c hc hclaims
    have hkey := hnone _ (h.mem_byDatabase_iff.mpr ⟨hc, hclaims⟩)
    exact absurd hkey (by simp)
  · rintro hnone ⟨key, c⟩ hin
    rw [bne_iff_ne]
    rintro rfl
    obtain ⟨hc, hclaims⟩ := h.mem_byDatabase_iff.mp hin
    exact hnone c hc hclaims

theorem ownerByDatabase?_eq_some_iff (h : r.Coherent) (hresolution : r.resolution = .manual)
    {database : String} {b : Binding κ} :
    r.snapshot.ownerByDatabase? database = some b ↔
      Owns .manual r.snapshot.bindings database b := by
  have hfound : ∀ {c : Binding κ}, r.snapshot.ownerByDatabase? database = some c →
      c ∈ r.snapshot.bindings ∧ Claims .manual c database := by
    intro c hlookup
    obtain ⟨front, back, hsplit, -⟩ := List.lookup_eq_some_iff.mp hlookup
    apply h.mem_byDatabase_iff.mp
    rw [hsplit]
    exact List.mem_append_right _ List.mem_cons_self
  constructor
  · intro hlookup
    obtain ⟨hb, hclaims⟩ := hfound hlookup
    exact ⟨hb, hclaims, fun c hc => h.eq_of_claims_manual hresolution hb hc hclaims⟩
  · rintro ⟨hb, hclaims, hsole⟩
    cases hlookup : r.snapshot.ownerByDatabase? database with
    | none => exact absurd hclaims (h.ownerByDatabase?_eq_none_iff.mp hlookup b hb)
    | some c =>
      obtain ⟨hc, hclaims'⟩ := hfound hlookup
      rw [hsole c hc hclaims']

theorem owner?_eq_some_iff (h : r.Coherent) {database : String} {b : Binding κ} :
    r.snapshot.owner? r.resolution database = some b ↔
      Owns r.resolution r.snapshot.bindings database b := by
  cases hresolution : r.resolution with
  | prefixed => exact h.ownerByPrefix?_eq_some_iff
  | manual => exact h.ownerByDatabase?_eq_some_iff hresolution

theorem owner?_eq_none_iff (h : r.Coherent) {database : String} :
    r.snapshot.owner? r.resolution database = none ↔
      ∀ c ∈ r.snapshot.bindings, ¬ Claims r.resolution c database := by
  cases r.resolution with
  | prefixed => exact h.ownerByPrefix?_eq_none_iff
  | manual => exact h.ownerByDatabase?_eq_none_iff

/-- The indexes of a snapshot lead to what a scan of its bindings comes to. -/
theorem serving_eq_iff_scan (h : r.Coherent) (database : String)
    (result : Except RoutingError (Binding κ)) :
    r.snapshot.serving r.resolution database = result ↔
      Scan r.resolution r.snapshot.bindings database result := by
  unfold Snapshot.serving
  cases howner : r.snapshot.owner? r.resolution database with
  | some b =>
    have howns := h.owner?_eq_some_iff.mp howner
    have hclaimed : ¬ ∀ c ∈ r.snapshot.bindings, ¬ Claims r.resolution c database := by
      intro hnone
      rw [h.owner?_eq_none_iff.mpr hnone] at howner
      cases howner
    rw [Option.some_or]
    constructor
    · rintro rfl
      exact .owner howns
    · intro hscan
      cases hscan with
      | owner howns' => exact congrArg _ (Option.some.inj
          (howner.symm.trans (h.owner?_eq_some_iff.mpr howns')))
      | primary hnone => exact absurd hnone hclaimed
      | none hnone => exact absurd hnone hclaimed
  | none =>
    have hnone := h.owner?_eq_none_iff.mp howner
    have hnoOwner : ∀ b, ¬ Owns r.resolution r.snapshot.bindings database b := by
      intro b howns
      rw [h.owner?_eq_some_iff.mpr howns] at howner
      cases howner
    rw [Option.none_or]
    cases hprimary : r.snapshot.primary with
    | some p =>
      obtain ⟨hp, hrole⟩ := h.primary_eq_some_iff.mp hprimary
      constructor
      · rintro rfl
        exact .primary hnone hp hrole
      · intro hscan
        cases hscan with
        | owner howns => exact absurd howns (hnoOwner _)
        | primary _ hb hrole' => exact congrArg _ (Option.some.inj
            (hprimary.symm.trans (h.primary_eq_some_iff.mpr ⟨hb, hrole'⟩)))
        | none _ hfederated => exact absurd (hrole.symm.trans (hfederated p hp)) (by decide)
    | none =>
      have hfederated := h.primary_eq_none_iff.mp hprimary
      constructor
      · rintro rfl
        exact .none hnone hfederated
      · intro hscan
        cases hscan with
        | owner howns => exact absurd howns (hnoOwner _)
        | primary _ hb hrole => exact absurd (hrole.symm.trans (hfederated _ hb)) (by decide)
        | none => rfl

end Registry.Coherent

end MetastoreFederation.Routing
