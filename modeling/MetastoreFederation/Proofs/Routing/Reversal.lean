import MetastoreFederation.Proofs.Administration.Requests
import MetastoreFederation.Proofs.Metastore.Permission
import MetastoreFederation.Proofs.Routing.Freshness

/-!
Whether a change and its opposite leave a routing table as it was. An addition is taken back by a
removal, but a primary cannot be removed. A replacement and a removal are taken back by binding the
old entry anew: this needs a client, puts a removed entry at the end, and starts without the
databases that were created before.
-/

set_option autoImplicit false
set_option relaxedAutoImplicit false

namespace MetastoreFederation.Routing

open Metastore

variable {κ : Type}

namespace Table

variable {t u : Table κ} {create : Factory κ} {bound : Nat} {e current : Entry}

/-- A binding that was made once can be made again with a client. -/
theorem Sound.bindable_iff (h : t.Sound bound) {b : Binding κ} (hb : b ∈ t.bindings) :
    Bindable create b.definition ↔ ∃ client, create b.definition = .ok client := by
  constructor
  · exact Bindable.client
  · intro hclient
    obtain ⟨gate, filters, hgate, hfilters, -⟩ := make_eq_ok_iff.mp (h.made b hb)
    exact ⟨hclient, ⟨gate, hgate⟩, ⟨filters, hfilters⟩⟩

/-- A binding that is made anew for an entry has the gate of the one before it. -/
theorem Sound.gate_eq (h : t.Sound bound) {b c : Binding κ} (hb : b ∈ t.bindings)
    (hentry : b.entry = e) {r : Registry κ} (hbind : r.bind create e = .ok c) :
    c.gate = b.gate := by
  obtain ⟨client, -, hmake⟩ := Registry.bind_binding_eq_ok_iff.mp hbind
  obtain ⟨gate, filters, hgate, -, rfl⟩ := make_eq_ok_iff.mp hmake
  obtain ⟨gate', filters', hgate', -, hb'⟩ := make_eq_ok_iff.mp (h.made b hb)
  rw [hentry, hgate] at hgate'
  rw [hb']
  exact Option.some.inj hgate'

/-- A gate without created databases permits the same only where none was created. -/
theorem Sound.mayWrite_eq_iff (h : t.Sound bound) {b : Binding κ} (hb : b ∈ t.bindings) :
    b.gate.mayWrite [] = b.gate.mayWrite (t.created.databases b.id) ↔
      t.created.databases b.id = [] := by
  constructor
  · intro hsame
    refine List.eq_nil_iff_forall_not_mem.mpr fun name hname => ?_
    obtain ⟨hpolicy, hlisted⟩ := h.created b hb name hname
    have hpermitted : b.gate.mayWrite (t.created.databases b.id) name = true := by
      have hany : ((t.created.databases b.id).any fun x => sameFolded x name) = true := by
        refine List.any_eq_true.mpr ⟨name, hname, ?_⟩
        simp [sameFolded]
      simp [Gate.mayWrite, Gate.isListed, hpolicy, hany]
    have hdenied : b.gate.mayWrite [] name = false := by
      simp [Gate.mayWrite, Gate.isListed, hpolicy, hlisted]
    rw [← hsame, hdenied] at hpermitted
    cases hpermitted
  · intro hnone
    rw [hnone]

/-- Nothing was created through a federated metastore. -/
theorem Sound.databases_of_federated (h : t.Sound bound) {b : Binding κ} (hb : b ∈ t.bindings)
    (hfederated : b.isPrimary = false) : t.created.databases b.id = [] := by
  refine List.eq_nil_iff_forall_not_mem.mpr fun name hname => ?_
  obtain ⟨hpolicy, -⟩ := h.created b hb name hname
  rw [Gate.policy_of_make? (h.gate hb)] at hpolicy
  have hdenied := Definition.mayCreate_of_federated (h.coherent.problems b hb) hfederated
  rw [hpolicy] at hdenied
  cases hdenied

section Unchanged

variable {event opposite : Event}

/-- A property that holds after every accepted change holds after a change and its opposite. -/
theorem toldBack_induction {P : Table κ → Prop} (ht : P t)
    (hevent : ∀ u, t.notify create event = .ok u → P u)
    (hopposite : ∀ u v, P u → u.notify create opposite = .ok v → P v) :
    P (toldBack (Table.notify create) event opposite t) := by
  unfold toldBack
  split
  · next u hu =>
    cases hback : u.notify create opposite with
    | error cause => exact hevent u hu
    | ok v => exact hopposite u v (hevent u hu) hback
  · exact ht

theorem Sound.toldBack (h : t.Sound bound) (hevent : event.bound ≤ bound)
    (hopposite : opposite.bound ≤ bound) :
    (toldBack (Table.notify create) event opposite t).Sound bound :=
  toldBack_induction h (fun _ hu => h.notify hevent hu) fun _ _ hu hv => hu.notify hopposite hv

theorem created_toldBack : (toldBack (Table.notify create) event opposite t).created = t.created :=
  toldBack_induction (P := fun u => u.created = t.created) rfl (fun _ hu => created_notify hu)
    fun _ _ hu hv => (created_notify hv).trans hu

theorem resolution_toldBack :
    (toldBack (Table.notify create) event opposite t).resolution = t.resolution :=
  toldBack_induction (P := fun u => u.resolution = t.resolution) rfl
    (fun _ hu => resolution_notify hu) fun _ _ hu hv => (resolution_notify hv).trans hu

/-- Whether a table is told apart from itself before is seen at its bindings. -/
theorem indistinct_toldBack_iff (event opposite : Event) (h : t.Sound bound)
    (hevent : event.bound ≤ bound) (hopposite : opposite.bound ≤ bound) :
    t.Indistinct (toldBack (Table.notify create) event opposite t) ↔
      (toldBack (Table.notify create) event opposite t).bindings.map t.face =
        t.bindings.map t.face := by
  rw [indistinct_iff h.coherent (h.toldBack hevent hopposite).coherent resolution_toldBack]
  unfold faces face
  rw [created_toldBack]

end Unchanged

/-- Where a binding is gone, something else is seen. -/
theorem map_face_filter_ne {p : Binding κ → Bool} {b : Binding κ} (hb : b ∈ t.bindings)
    (hp : p b = false) : (t.bindings.filter p).map t.face ≠ t.bindings.map t.face := by
  intro hsame
  have hlength := congrArg List.length hsame
  rw [List.length_map, List.length_map] at hlength
  have hlt := List.length_filter_lt_length_iff_exists (p := p).mpr ⟨b, hb, by simp [hp]⟩
  omega

section Addition

theorem bindings_removed {name : String} {b : Binding κ}
    (hfind : t.registry.snapshot.find? name = some b) :
    ((t.notify create (.unregister name)).toOption.getD t).bindings =
      if b.isPrimary = true then t.bindings else t.bindings.filter fun c => c.name != name := by
  unfold notify
  dsimp only
  unfold Registry.unregister
  rw [hfind]
  cases hprimary : b.isPrimary with
  | true =>
    rw [if_pos rfl]
    simp only [hprimary, if_true]
    rfl
  | false =>
    simp only [hprimary, Bool.false_eq_true, if_false]
    rfl

/-- An addition that a removal takes back leaves nothing behind just where the entry is a primary
that was there before, or one that is new and no primary. -/
theorem indistinct_toldBack_register (h : t.Sound bound) (hbound : e.id < bound)
    (haccepted : t.notify create (.register e) = .ok u) :
    t.Indistinct (toldBack (Table.notify create) (.register e) (.unregister e.name) t) ↔
      ((∃ b ∈ t.bindings, b.name = e.name) ↔ e.definition.isPrimary = true) := by
  have hu := coherent_notify h.coherent haccepted
  rw [indistinct_toldBack_iff (.register e) (.unregister e.name) h hbound (Nat.zero_le _),
    toldBack_of_ok haccepted]
  rcases of_notify_register haccepted with ⟨b, hfind, hsame, rfl⟩ | ⟨hfree, b, hbind, rfl⟩
  · -- The entry was there, so nothing was added, but it is removed if that is possible.
    obtain ⟨hb, hname⟩ := h.coherent.find?_eq_some_iff.mp hfind
    have hrole : b.isPrimary = e.definition.isPrimary := congrArg Definition.isPrimary hsame
    have hexists : ∃ b ∈ u.bindings, b.name = e.name := ⟨b, hb, hname⟩
    rw [bindings_removed hfind, ← hrole]
    cases hprimary : b.isPrimary with
    | true => simp only [if_true, hexists]
    | false =>
      have hgone := map_face_filter_ne (p := fun c => c.name != e.name) hb (by simp [hname])
      simp only [Bool.false_eq_true, if_false, hexists, iff_false, not_true_eq_false]
      exact hgone
  · obtain ⟨hentry, -⟩ := Registry.entry_of_bind hbind
    have hname : b.name = e.name := congrArg Entry.name hentry
    have hrole : b.isPrimary = e.definition.isPrimary :=
      congrArg (fun e => e.definition.isPrimary) hentry
    have hnames : ∀ c ∈ t.bindings, c.name ≠ e.name := Registry.find?_eq_none_iff.mp hfree
    have hfind : (t.publish (t.bindings ++ [b])).registry.snapshot.find? e.name = some b :=
      hu.find?_eq_some_iff.mpr
        ⟨List.mem_append_right _ (List.mem_singleton_self b), hname⟩
    have hexists : ¬ ∃ b ∈ t.bindings, b.name = e.name := fun ⟨c, hc, hsame⟩ => hnames c hc hsame
    rw [bindings_removed hfind, ← hrole, bindings_publish]
    cases hprimary : b.isPrimary with
    | true =>
      simp only [if_true, hexists, iff_true]
      constructor
      · intro hsame
        have hlength := congrArg List.length hsame
        simp at hlength
      · exact False.elim
    | false =>
      have hkept : (t.bindings ++ [b]).filter (fun c => c.name != e.name) = t.bindings := by
        rw [List.filter_append, List.filter_eq_self.mpr fun c hc => bne_iff_ne.mpr (hnames c hc)]
        simp [hname]
      simp only [Bool.false_eq_true, if_false, hexists, hkept]

end Addition

/-- What is seen of a binding that was just made. -/
theorem Sound.face_of_bind (h : t.Sound bound) {r : Registry κ} {b c : Binding κ}
    (hid : t.registry.nextId ≤ r.nextId) (hb : b ∈ t.bindings)
    (hbind : r.bind create current = .ok c) :
    t.face c = t.face b ↔ b.entry = current ∧ t.created.databases b.id = [] := by
  obtain ⟨hentry, hcid⟩ := Registry.entry_of_bind hbind
  have hnone : t.created.databases c.id = [] := h.databases_nextId (hcid ▸ hid)
  have hface : t.face c = t.face b ↔ c.entry = b.entry ∧
      c.gate.mayWrite [] = b.gate.mayWrite (t.created.databases b.id) := by
    unfold face CreatedBoard.mayWrite
    rw [Face.mk.injEq, hnone]
  rw [hface, hentry]
  constructor
  · rintro ⟨rfl, hgate⟩
    rw [h.gate_eq hb rfl hbind] at hgate
    exact ⟨rfl, (h.mayWrite_eq_iff hb).mp hgate⟩
  · rintro ⟨rfl, hdatabases⟩
    rw [h.gate_eq hb rfl hbind]
    exact ⟨rfl, (h.mayWrite_eq_iff hb).mpr hdatabases⟩

section Replacement

variable {old : String} {b : Binding κ}

/-- The entry that was replaced finds its place again if it can be bound. -/
theorem exists_replaced_back (h : t.Sound bound)
    (hrole : current.definition.role = e.definition.role)
    (haccepted : t.notify create (.update old e) = .ok u) (hb : b ∈ t.bindings)
    (hname : b.name = old) (hentry : b.entry = current)
    (hclient : ∃ client, create b.definition = .ok client) :
    ∃ v, u.notify create (.update e.name current) = .ok v := by
  have hu := coherent_notify h.coherent haccepted
  have hresolution := resolution_notify haccepted
  obtain ⟨-, c, -, -, hbind, hpublish⟩ := of_notify_update haccepted
  have hbindings : u.bindings = t.bindings.map fun d => if d.name = old then c else d := by
    rw [hpublish, bindings_publish]
  obtain ⟨hcentry, -⟩ := Registry.entry_of_bind hbind
  have hcname : c.name = e.name := congrArg Entry.name hcentry
  subst hentry hname
  have hc : c ∈ u.bindings := by
    rw [hbindings]
    exact List.mem_map.mpr ⟨b, hb, if_pos rfl⟩
  have hcheck : checkCompatible u.resolution
      (u.registry.snapshot.definitions.filter fun d => d.name != e.name) b.definition = .ok () := by
    refine (checkCompatible_eq_ok_iff ..).mpr ⟨h.coherent.problems b hb, fun other hother => ?_⟩
    obtain ⟨hmem, hne⟩ := List.mem_filter.mp hother
    obtain ⟨x, hx, rfl⟩ : ∃ x ∈ u.bindings, x.definition = other := List.mem_map.mp hmem
    rw [hbindings] at hx
    obtain ⟨d, hd, rfl⟩ := List.mem_map.mp hx
    rw [hresolution]
    split_ifs at hne ⊢ with hsame
    · exact absurd hcname (bne_iff_ne.mp hne)
    · exact h.coherent.compatible_of_ne hb hd fun heq => hsame (congrArg Binding.name heq.symm)
  obtain ⟨d, hd⟩ :=
    (Registry.exists_bind_iff (r := u.registry)).mpr ((h.bindable_iff hb).mpr hclient)
  have hrole' : c.definition.role = b.definition.role :=
    (congrArg (fun e => e.definition.role) hcentry).trans hrole.symm
  have hback := Registry.update_eq_ok_iff.mpr
    ⟨c, hu.find?_eq_some_iff.mpr ⟨hc, hcname⟩, hrole', hcheck, d, hd, rfl⟩
  exact ⟨_, notify_eq_ok_iff.mpr ⟨_, hback, rfl⟩⟩

/-- Where a binding is replaced, only its own face can change. -/
theorem map_face_replaced (h : t.registry.Coherent) (hb : b ∈ t.bindings) (hname : b.name = old)
    (c : Binding κ) :
    (t.bindings.map fun d => if d.name = old then c else d).map t.face = t.bindings.map t.face ↔
      t.face c = t.face b := by
  rw [List.map_map, List.map_inj_left]
  constructor
  · intro hall
    have hc := hall b hb
    rwa [Function.comp_apply, if_pos hname] at hc
  · intro hc d hd
    rw [Function.comp_apply]
    split_ifs with hdname
    · rw [hc, List.inj_on_of_nodup_map h.nodup_names hd hb (hdname.trans hname.symm)]
    · rfl

/-- A replacement that another one takes back puts a new binding where the old one was. -/
theorem bindings_replaced_back {v : Table κ} (haccepted : t.notify create (.update old e) = .ok u)
    (hback : u.notify create (.update e.name current) = .ok v) :
    ∃ c, u.registry.bind create current = .ok c ∧
      v.bindings = t.bindings.map fun d => if d.name = old then c else d := by
  obtain ⟨-, x, -, hcheck, hx, hu⟩ := of_notify_update haccepted
  obtain ⟨-, c, -, -, hc, hv⟩ := of_notify_update hback
  obtain ⟨hxentry, -⟩ := Registry.entry_of_bind hx
  have hxname : x.name = e.name := congrArg Entry.name hxentry
  refine ⟨c, hc, ?_⟩
  rw [hv, bindings_publish, hu, bindings_publish, List.map_map]
  refine List.map_congr_left fun d hd => ?_
  rw [Function.comp_apply]
  by_cases hdname : d.name = old
  · rw [if_pos hdname, if_pos hdname, if_pos hxname]
  · -- The new entry got a name that no other binding has, so the others stay.
    have hcompatible := ((checkCompatible_eq_ok_iff ..).mp hcheck).2 d.definition
      (List.mem_filter.mpr ⟨List.mem_map_of_mem hd, bne_iff_ne.mpr hdname⟩)
    have hother : d.name ≠ e.name := hcompatible.names.symm
    rw [if_neg hdname, if_neg hdname, if_neg hother]

/-- A replacement that another one takes back leaves nothing behind just where the entry put back is
the one that was bound, a client is made for it, and nothing was created through its binding. -/
theorem indistinct_toldBack_update (h : t.Sound bound) (hnew : e.id = bound)
    (hcurrent : current.id < bound) (hrole : current.definition.role = e.definition.role)
    (haccepted : t.notify create (.update old e) = .ok u) :
    t.Indistinct (toldBack (Table.notify create) (.update old e) (.update e.name current) t) ↔
      ∃ b ∈ t.bindings, b.name = old ∧ b.entry = current ∧
        (∃ client, create b.definition = .ok client) ∧ t.created.databases b.id = [] := by
  have hevent : (Event.update old e).bound ≤ bound + 1 := Nat.succ_le_succ (Nat.le_of_eq hnew)
  have hopposite : (Event.update e.name current).bound ≤ bound + 1 := Nat.le_succ_of_le hcurrent
  rw [indistinct_toldBack_iff _ _ (h.mono (Nat.le_succ bound)) hevent hopposite,
    toldBack_of_ok haccepted]
  obtain ⟨b, c, hfind, -, hbind, hpublish⟩ := of_notify_update haccepted
  obtain ⟨hb, hname⟩ := h.coherent.find?_eq_some_iff.mp hfind
  cases hv : u.notify create (.update e.name current) with
  | error cause =>
    change u.bindings.map t.face = _ ↔ _
    rw [hpublish, bindings_publish, map_face_replaced h.coherent hb hname]
    constructor
    · -- The new entry stays, and its identity tells it from the one before.
      intro hface
      obtain ⟨hcentry, -⟩ := Registry.entry_of_bind hbind
      have hentry : e = b.entry := hcentry ▸ congrArg Face.entry hface
      exact absurd (h.entries b hb) (by rw [← hentry, hnew]; exact Nat.lt_irrefl bound)
    · rintro ⟨d, hd, hdname, hdentry, hclient, -⟩
      obtain ⟨v, hok⟩ := exists_replaced_back h hrole haccepted hd hdname hdentry hclient
      rw [hv] at hok
      cases hok
  | ok v =>
    obtain ⟨x, hbind', hbindings⟩ := bindings_replaced_back haccepted hv
    change v.bindings.map t.face = _ ↔ _
    rw [hbindings, map_face_replaced h.coherent hb hname,
      h.face_of_bind (nextId_le_of_notify haccepted) hb hbind']
    constructor
    · rintro ⟨rfl, hdatabases⟩
      obtain ⟨client, hclient, -⟩ := Registry.bind_binding_eq_ok_iff.mp hbind'
      exact ⟨b, hb, hname, rfl, ⟨client, hclient⟩, hdatabases⟩
    · rintro ⟨d, hd, hdname, hdentry, -, hdatabases⟩
      obtain rfl :=
        List.inj_on_of_nodup_map h.coherent.nodup_names hd hb (hdname.trans hname.symm)
      exact ⟨hdentry, hdatabases⟩

end Replacement

section Removal

variable {name : String} {b : Binding κ}

/-- The entry that was removed is added again if it can be bound. -/
theorem exists_added_back (h : t.Sound bound)
    (haccepted : t.notify create (.unregister name) = .ok u) (hb : b ∈ t.bindings)
    (hname : b.name = name) (hclient : ∃ client, create b.definition = .ok client) :
    ∃ v, u.notify create (.register b.entry) = .ok v := by
  have hu := coherent_notify h.coherent haccepted
  have hresolution := resolution_notify haccepted
  obtain ⟨-, -, -, hpublish⟩ := of_notify_unregister haccepted
  have hbindings : u.bindings = t.bindings.filter fun d => d.name != name := by
    rw [hpublish, bindings_publish]
  obtain ⟨c, hbind⟩ :=
    (Registry.exists_bind_iff (r := u.registry)).mpr ((h.bindable_iff hb).mpr hclient)
  have hcompatible : ∀ d ∈ u.registry.snapshot.definitions,
      Compatible u.resolution b.definition d := by
    intro d hd
    obtain ⟨x, hx, rfl⟩ : ∃ x ∈ u.bindings, x.definition = d := List.mem_map.mp hd
    rw [hbindings] at hx
    obtain ⟨hx, hne⟩ := List.mem_filter.mp hx
    rw [hresolution]
    refine h.coherent.compatible_of_ne hb hx fun heq => bne_iff_ne.mp hne ?_
    rw [← heq, hname]
  have hback := hu.register_of_compatible (e := b.entry) (h.coherent.problems b hb) hcompatible
    hbind
  exact ⟨_, notify_eq_ok_iff.mpr ⟨_, hback, rfl⟩⟩

/-- A binding that is removed, with another one of its name added, was replaced just where it stood
last. -/
theorem map_face_moved (h : t.registry.Coherent) (hb : b ∈ t.bindings) (hname : b.name = name)
    {c : Binding κ} (hc : c.name = name) :
    ((t.bindings.filter fun d => d.name != name) ++ [c]).map t.face = t.bindings.map t.face ↔
      t.bindings.getLast? = some b ∧ t.face c = t.face b := by
  rw [List.map_append, List.map_singleton]
  constructor
  · intro hsame
    obtain ⟨front, back, hsplit, -, hlast⟩ := List.map_eq_append_iff.mp hsame.symm
    obtain ⟨d, rfl, hface⟩ := List.map_eq_singleton_iff.mp hlast
    have hd : d ∈ t.bindings := hsplit ▸ List.mem_append_right _ (List.mem_singleton_self d)
    have hdname : d.name = c.name := congrArg (fun face => face.entry.definition.name) hface
    obtain rfl :=
      List.inj_on_of_nodup_map h.nodup_names hd hb (hdname.trans (hc.trans hname.symm))
    exact ⟨List.getLast?_eq_some_iff.mpr ⟨front, hsplit⟩, hface.symm⟩
  · rintro ⟨hlast, hface⟩
    obtain ⟨front, hsplit⟩ := List.getLast?_eq_some_iff.mp hlast
    have hnames : (t.bindings.map Binding.name).Nodup := h.nodup_names
    rw [hsplit, List.map_append, List.map_singleton, List.nodup_append] at hnames
    have hfront : front.filter (fun c => c.name != name) = front := by
      refine List.filter_eq_self.mpr fun d hd => bne_iff_ne.mpr ?_
      rw [← hname]
      exact hnames.2.2 _ (List.mem_map_of_mem hd) _ (List.mem_singleton_self _)
    rw [hsplit, List.filter_append, hfront, hface]
    simp [hname]

/-- A removal that an addition takes back leaves nothing behind just where the entry added is the
one that was bound, and bound last, and a client is made for it. -/
theorem indistinct_toldBack_unregister (h : t.Sound bound) (hcurrent : current.id < bound)
    (hname : current.name = name) (haccepted : t.notify create (.unregister name) = .ok u) :
    t.Indistinct (toldBack (Table.notify create) (.unregister name) (.register current) t) ↔
      ∃ b, t.bindings.getLast? = some b ∧ b.entry = current ∧
        ∃ client, create b.definition = .ok client := by
  rw [indistinct_toldBack_iff (.unregister name) (.register current) h (Nat.zero_le _) hcurrent,
    toldBack_of_ok haccepted]
  obtain ⟨b, hfind, hfederated, hpublish⟩ := of_notify_unregister haccepted
  have hbindings : u.bindings = t.bindings.filter fun d => d.name != name := by
    rw [hpublish, bindings_publish]
  obtain ⟨hb, hbname⟩ := h.coherent.find?_eq_some_iff.mp hfind
  cases hv : u.notify create (.register current) with
  | error cause =>
    change u.bindings.map t.face = _ ↔ _
    rw [hbindings]
    constructor
    · -- The entry stays away.
      intro hsame
      exact absurd hsame (map_face_filter_ne (p := fun d => d.name != name) hb (by simp [hbname]))
    · rintro ⟨d, hlast, rfl, hclient⟩
      obtain ⟨v, hok⟩ := exists_added_back h haccepted (List.mem_of_getLast? hlast) hname hclient
      rw [hv] at hok
      cases hok
  | ok v =>
    rcases of_notify_register hv with ⟨d, hfound, -⟩ | ⟨-, x, hbind, hpublish'⟩
    · -- It was removed, so it cannot be there already.
      have hu := coherent_notify h.coherent haccepted
      obtain ⟨hd, hdname⟩ : d ∈ u.bindings ∧ d.name = current.name :=
        hu.find?_eq_some_iff.mp hfound
      rw [hbindings] at hd
      exact absurd (hdname.trans hname) (bne_iff_ne.mp (List.mem_filter.mp hd).2)
    · obtain ⟨hxentry, -⟩ := Registry.entry_of_bind hbind
      have hxname : x.name = name := (congrArg Entry.name hxentry).trans hname
      change v.bindings.map t.face = _ ↔ _
      rw [hpublish', bindings_publish, hbindings, map_face_moved h.coherent hb hbname hxname,
        h.face_of_bind (nextId_le_of_notify haccepted) hb hbind]
      constructor
      · rintro ⟨hlast, rfl, -⟩
        obtain ⟨client, hclient, -⟩ := Registry.bind_binding_eq_ok_iff.mp hbind
        exact ⟨b, hlast, rfl, client, hclient⟩
      · rintro ⟨d, hlast, hdentry, -⟩
        have hdname : d.name = name := (congrArg Entry.name hdentry).trans hname
        obtain rfl := List.inj_on_of_nodup_map h.coherent.nodup_names (List.mem_of_getLast? hlast)
          hb (hdname.trans hbname.symm)
        exact ⟨hlast, hdentry, h.databases_of_federated hb hfederated⟩

end Removal

end Table

end MetastoreFederation.Routing
