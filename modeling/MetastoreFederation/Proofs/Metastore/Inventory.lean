import Mathlib.Data.List.Perm.Basic
import MetastoreFederation.Metastore.Inventory
import MetastoreFederation.Proofs.Basic

/-!
Inventories in order: no name and no identity is there twice, and the primary comes first. What is
done about an inventory in order leaves it in order.
-/

set_option autoImplicit false
set_option relaxedAutoImplicit false

namespace MetastoreFederation.Metastore

theorem replaceFirst_append_cons {α : Type} {p : α → Bool} {old new : α} {before after : List α}
    (hold : p old = true) (hbefore : ∀ a ∈ before, p a = false) :
    replaceFirst p new (before ++ old :: after) = before ++ new :: after := by
  induction before with
  | nil => exact if_pos hold
  | cons a before ih =>
    obtain ⟨ha, hbefore⟩ := List.forall_mem_cons.mp hbefore
    rw [List.cons_append, replaceFirst, ha, ih hbefore]
    rfl

theorem mem_of_mem_replaceFirst {α : Type} {p : α → Bool} {a new : α} {l : List α}
    (h : a ∈ replaceFirst p new l) : a = new ∨ a ∈ l := by
  induction l with
  | nil => exact .inr h
  | cons b l ih =>
    unfold replaceFirst at h
    split_ifs at h
    · rcases List.mem_cons.mp h with rfl | h
      · exact .inl rfl
      · exact .inr (List.mem_cons_of_mem _ h)
    · rcases List.mem_cons.mp h with rfl | h
      · exact .inr List.mem_cons_self
      · exact (ih h).imp_right (List.mem_cons_of_mem _)

theorem nodup_map_replaced {α β : Type} {f : α → β} {old new : α} {before after : List α}
    (h : ((before ++ old :: after).map f).Nodup) (hnew : ∀ a ∈ before ++ after, f a ≠ f new) :
    ((before ++ new :: after).map f).Nodup := by
  rw [List.map_append, List.map_cons, List.nodup_middle, List.nodup_cons, ← List.map_append] at h ⊢
  refine ⟨fun hmem => ?_, h.2⟩
  obtain ⟨a, ha, hsame⟩ := List.mem_map.mp hmem
  exact hnew a ha hsame

namespace Inventory

variable {i : Inventory} {name : String} {current : Entry}

/-- The identities that are given to further entries are new. -/
def Fresh (i : Inventory) : Prop := ∀ e ∈ i.entries, e.id < i.nextId

/-- What holds of an inventory through all changes. -/
structure Orderly (i : Inventory) : Prop where
  names : (i.entries.map Entry.name).Nodup
  ids : (i.entries.map Entry.id).Nodup
  fresh : i.Fresh
  primaryFirst : i.entries.Pairwise fun _ e => e.definition.isPrimary = false

theorem find?_eq_none_iff : i.find? name = none ↔ ∀ e ∈ i.entries, e.name ≠ name := by
  unfold find?
  rw [List.find?_eq_none]
  simp only [beq_iff_eq, ne_eq]

theorem mem_of_find? (h : i.find? name = some current) :
    current ∈ i.entries ∧ current.name = name := by
  have hname := List.find?_some h
  exact ⟨List.mem_of_find?_eq_some h, beq_iff_eq.mp hname⟩

theorem perm_insert (i : Inventory) (e : Entry) : (i.insert e).entries.Perm (e :: i.entries) := by
  unfold insert
  split_ifs
  · exact .refl _
  · exact List.perm_append_singleton ..

namespace Fresh

theorem advance (h : i.Fresh) : i.advance.Fresh := fun e he => Nat.lt_succ_of_lt (h e he)

theorem insert (h : i.Fresh) (d : Definition) : (i.advance.insert (i.newEntry d)).Fresh := by
  intro e he
  rcases List.mem_cons.mp ((perm_insert i.advance _).mem_iff.mp he) with rfl | he
  · exact Nat.lt_succ_self i.nextId
  · exact h.advance e he

theorem replace (h : i.Fresh) (name : String) (d : Definition) :
    (i.advance.replace name (i.newEntry d)).Fresh := by
  intro e he
  rcases mem_of_mem_replaceFirst he with rfl | he
  · exact Nat.lt_succ_self i.nextId
  · exact h.advance e he

theorem remove (h : i.Fresh) (name : String) : (i.remove name).Fresh := fun e he =>
  h e (List.mem_of_mem_eraseP he)

end Fresh

namespace Orderly

/-- A name finds the one entry under it. -/
theorem find?_eq_some_iff (h : i.Orderly) :
    i.find? name = some current ↔ current ∈ i.entries ∧ current.name = name :=
  find?_eq_some_iff_of_nodup h.names

/-- No entry beside the one that a name finds has the name. -/
theorem exists_split (h : i.Orderly) (hfind : i.find? name = some current) :
    ∃ before after, i.entries = before ++ current :: after ∧ current.name = name ∧
      (∀ e ∈ before, e.name ≠ name) ∧ ∀ e ∈ after, e.name ≠ name := by
  obtain ⟨hcurrent, rfl⟩ := mem_of_find? hfind
  obtain ⟨before, after, hsplit⟩ := List.append_of_mem hcurrent
  have hnames := h.names
  rw [hsplit, List.map_append, List.map_cons, List.nodup_middle, List.nodup_cons] at hnames
  have hother : ∀ e ∈ before ++ after, e.name ≠ current.name := by
    intro e he hname
    apply hnames.1
    rw [← List.map_append, ← hname]
    exact List.mem_map_of_mem he
  exact ⟨before, after, hsplit, rfl, fun e he => hother e (List.mem_append_left _ he),
    fun e he => hother e (List.mem_append_right _ he)⟩

theorem entries_replace (h : i.Orderly) {before after : List Entry} (e : Entry)
    (hfind : i.find? name = some current) (hsplit : i.entries = before ++ current :: after) :
    (i.replace name e).entries = before ++ e :: after := by
  obtain ⟨hcurrent, rfl⟩ := mem_of_find? hfind
  have hnames := h.names
  rw [hsplit, List.map_append, List.map_cons, List.nodup_append] at hnames
  unfold replace
  rw [hsplit]
  refine replaceFirst_append_cons (beq_self_eq_true current.name) fun e he => ?_
  exact beq_false_of_ne (hnames.2.2 _ (List.mem_map_of_mem he) _ List.mem_cons_self)

/-- No other entry has the name of the one that is replaced. -/
theorem entries_replace_eq_map (h : i.Orderly) (e : Entry) (hfind : i.find? name = some current) :
    (i.replace name e).entries = i.entries.map fun f => if f.name = name then e else f := by
  obtain ⟨before, after, hsplit, hname, hbefore, hafter⟩ := h.exists_split hfind
  have hkept : ∀ {l : List Entry}, (∀ f ∈ l, f.name ≠ name) →
      (l.map fun f => if f.name = name then e else f) = l := by
    intro l hl
    have hsame : ∀ f ∈ l, (if f.name = name then e else f) = id f := fun f hf => if_neg (hl f hf)
    rw [List.map_congr_left hsame, List.map_id]
  rw [h.entries_replace e hfind hsplit, hsplit, List.map_append, List.map_cons, hkept hbefore,
    hkept hafter, if_pos hname]

theorem entries_remove_eq_filter (h : i.Orderly) (name : String) :
    (i.remove name).entries = i.entries.filter fun e => e.name != name := by
  have hnames := h.names
  change i.entries.eraseP _ = _
  generalize i.entries = entries at hnames
  induction entries with
  | nil => rfl
  | cons e entries ih =>
    rw [List.map_cons, List.nodup_cons] at hnames
    by_cases hname : e.name = name
    · have hother : ∀ f ∈ entries, (f.name != name) = true := by
        intro f hf
        rw [bne_iff_ne, ← hname]
        exact fun hsame => hnames.1 (hsame ▸ List.mem_map_of_mem hf)
      rw [List.eraseP_cons_of_pos (by simp [hname]), List.filter_cons_of_neg (by simp [hname]),
        List.filter_eq_self.mpr hother]
    · rw [List.eraseP_cons_of_neg (by simp [hname]), List.filter_cons_of_pos (by simp [hname]),
        ih hnames.2]

theorem advance (h : i.Orderly) : i.advance.Orderly where
  names := h.names
  ids := h.ids
  fresh := h.fresh.advance
  primaryFirst := h.primaryFirst

theorem record (h : i.Orderly) (id : Nat) (status : Status) : (i.record id status).Orderly where
  names := h.names
  ids := h.ids
  fresh := h.fresh
  primaryFirst := h.primaryFirst

theorem id_not_mem (h : i.Orderly) : i.nextId ∉ i.entries.map Entry.id := by
  intro hmem
  obtain ⟨e, he, hid⟩ := List.mem_map.mp hmem
  exact absurd (h.fresh e he) (hid ▸ Nat.lt_irrefl _)

end Orderly

theorem Orderly.insert (h : i.Orderly) {d : Definition}
    (hnames : ∀ e ∈ i.entries, e.name ≠ d.name)
    (hprimaries : ∀ e ∈ i.entries, ¬ (d.isPrimary = true ∧ e.definition.isPrimary = true)) :
    (i.advance.insert (i.newEntry d)).Orderly := by
  have hperm : (i.advance.insert (i.newEntry d)).entries.Perm (i.newEntry d :: i.entries) :=
    perm_insert i.advance (i.newEntry d)
  refine ⟨?_, ?_, h.fresh.insert d, ?_⟩
  · rw [(hperm.map Entry.name).nodup_iff, List.map_cons, List.nodup_cons]
    refine ⟨fun hmem => ?_, h.names⟩
    obtain ⟨e, he, hname⟩ := List.mem_map.mp hmem
    exact hnames e he hname
  · rw [(hperm.map Entry.id).nodup_iff, List.map_cons, List.nodup_cons]
    exact ⟨h.id_not_mem, h.ids⟩
  · unfold Inventory.insert
    split_ifs with hprimary
    · refine List.pairwise_cons.mpr ⟨fun e he => ?_, h.primaryFirst⟩
      have hboth := hprimaries e he
      exact Bool.not_eq_true _ ▸ fun hother => hboth ⟨hprimary, hother⟩
    · refine List.pairwise_append.mpr ⟨h.primaryFirst, List.pairwise_singleton .., ?_⟩
      intro _ _ e he
      rw [List.mem_singleton.mp he]
      exact Bool.not_eq_true _ ▸ hprimary

theorem Orderly.replace (h : i.Orderly) {d : Definition} (hfind : i.find? name = some current)
    (hrole : current.definition.role = d.role)
    (hnames : ∀ e ∈ i.entries, e.name ≠ name → e.name ≠ d.name) :
    (i.advance.replace name (i.newEntry d)).Orderly := by
  obtain ⟨before, after, hsplit, rfl, hbefore, hafter⟩ := h.exists_split hfind
  have hentries : (i.advance.replace current.name (i.newEntry d)).entries =
      before ++ i.newEntry d :: after := h.advance.entries_replace _ hfind hsplit
  have hother : ∀ e ∈ before ++ after, e ∈ i.entries ∧ e.name ≠ current.name := by
    intro e he
    rw [hsplit]
    rcases List.mem_append.mp he with he | he
    · exact ⟨List.mem_append_left _ he, hbefore e he⟩
    · exact ⟨List.mem_append_right _ (List.mem_cons_of_mem _ he), hafter e he⟩
  refine ⟨?_, ?_, h.fresh.replace _ d, ?_⟩
  · rw [hentries]
    refine nodup_map_replaced (hsplit ▸ h.names) fun e he => ?_
    exact hnames e (hother e he).1 (hother e he).2
  · rw [hentries]
    refine nodup_map_replaced (hsplit ▸ h.ids) fun e he => ?_
    exact Nat.ne_of_lt (h.fresh e (hother e he).1)
  · -- The new entry has the role of the one whose place it takes.
    have hroles : (before ++ i.newEntry d :: after).map (fun e => e.definition.isPrimary) =
        i.entries.map fun e => e.definition.isPrimary := by
      have hsame : d.isPrimary = current.definition.isPrimary :=
        (congrArg Role.isPrimary hrole).symm
      simp only [hsplit, List.map_append, List.map_cons, newEntry, hsame]
    rw [hentries]
    apply List.pairwise_map (R := fun _ p => p = false).mp
    rw [hroles]
    exact List.pairwise_map.mpr h.primaryFirst

theorem Orderly.remove (h : i.Orderly) (name : String) : (i.remove name).Orderly := by
  have hsublist : (i.remove name).entries.Sublist i.entries := List.eraseP_sublist
  exact ⟨h.names.sublist (hsublist.map _), h.ids.sublist (hsublist.map _),
    h.fresh.remove name, h.primaryFirst.sublist hsublist⟩

section Beginning

variable (definitions : List Definition)

/-- The entries that an inventory starts with, before the primaries are put first. -/
def numbered : List Entry := definitions.zipIdx.map fun (d, id) => Entry.mk id d

theorem map_definition_numbered : (numbered definitions).map Entry.definition = definitions := by
  unfold numbered
  rw [List.map_map]
  exact List.zipIdx_map_fst 0 definitions

theorem perm_ofDefinitions : (ofDefinitions definitions).entries.Perm (numbered definitions) :=
  List.filter_append_perm ..

theorem definitions_ofDefinitions_perm :
    (ofDefinitions definitions).definitions.Perm definitions := by
  have hperm := (perm_ofDefinitions definitions).map Entry.definition
  rwa [map_definition_numbered] at hperm

/-- The entries of an inventory are numbered in the order in which it starts with them. -/
theorem definitions_ofDefinitions_eq_append :
    (ofDefinitions definitions).definitions =
      definitions.filter Definition.isPrimary ++ definitions.filter fun d => !d.isPrimary := by
  have hfilter : ∀ p : Definition → Bool,
      ((numbered definitions).filter fun e => p e.definition).map Entry.definition =
        definitions.filter p := by
    intro p
    have hmap := List.filter_map (p := p) (f := Entry.definition) (l := numbered definitions)
    rw [map_definition_numbered] at hmap
    exact hmap.symm
  unfold Inventory.definitions ofDefinitions
  dsimp only
  rw [List.map_append]
  exact congrArg₂ _ (hfilter Definition.isPrimary) (hfilter fun d => !d.isPrimary)

variable {definitions} in
/-- An inventory starts with its definitions as they are given, if at most the first is a
primary. -/
theorem definitions_ofDefinitions (h : definitions.Pairwise fun _ e => e.isPrimary = false) :
    (ofDefinitions definitions).definitions = definitions := by
  rw [definitions_ofDefinitions_eq_append]
  cases definitions with
  | nil => rfl
  | cons d definitions =>
    have hrest := (List.pairwise_cons.mp h).1
    have hnone : definitions.filter Definition.isPrimary = [] :=
      List.filter_eq_nil_iff.mpr fun e he => by simp [hrest e he]
    have hall : (definitions.filter fun e => !e.isPrimary) = definitions :=
      List.filter_eq_self.mpr fun e he => by simp [hrest e he]
    cases hprimary : d.isPrimary with
    | true => simp [hprimary, hnone, hall]
    | false => simp [hprimary, hnone, hall]

theorem map_id_numbered :
    (numbered definitions).map Entry.id = List.range' 0 definitions.length := by
  unfold numbered
  rw [List.map_map]
  exact List.zipIdx_map_snd 0 definitions

theorem fresh_ofDefinitions : (ofDefinitions definitions).Fresh := by
  intro e he
  have hid := List.mem_map_of_mem (f := Entry.id) he
  rw [((perm_ofDefinitions definitions).map Entry.id).mem_iff, map_id_numbered,
    List.mem_range'_1, Nat.zero_add] at hid
  exact hid.2

/-- An inventory starts in order where the names are distinct and there is one primary at most. -/
theorem orderly_ofDefinitions (hnames : (definitions.map Definition.name).Nodup)
    (hprimaries : definitions.Pairwise fun d e => ¬ (d.isPrimary = true ∧ e.isPrimary = true)) :
    (ofDefinitions definitions).Orderly := by
  refine ⟨?_, ?_, fresh_ofDefinitions definitions, ?_⟩
  · have hmap := ((definitions_ofDefinitions_perm definitions).map Definition.name).nodup_iff
    unfold Inventory.definitions at hmap
    rw [List.map_map] at hmap
    exact hmap.mpr hnames
  · rw [((perm_ofDefinitions definitions).map Entry.id).nodup_iff, map_id_numbered]
    exact List.nodup_range'
  · have hpairs : (numbered definitions).Pairwise fun e f =>
        ¬ (e.definition.isPrimary = true ∧ f.definition.isPrimary = true) := by
      rw [← map_definition_numbered definitions] at hprimaries
      exact List.pairwise_map.mp hprimaries
    have hback : ∀ e ∈ (numbered definitions).filter fun e => !e.definition.isPrimary,
        e.definition.isPrimary = false := by
      intro e he
      simpa using (List.mem_filter.mp he).2
    refine List.pairwise_append.mpr ⟨?_, ?_, fun _ _ e he => hback e he⟩
    · refine (hpairs.filter _).imp_of_mem fun he hf hboth => ?_
      exact absurd ⟨(List.mem_filter.mp he).2, (List.mem_filter.mp hf).2⟩ hboth
    · exact List.Pairwise.imp_of_mem (fun _ hf _ => hback _ hf) (hpairs.filter _)

end Beginning

end Inventory

end MetastoreFederation.Metastore
