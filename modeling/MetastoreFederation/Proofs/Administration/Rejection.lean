import MetastoreFederation.Proofs.Administration.Subscribers
import MetastoreFederation.Proofs.Routing.Reversal

/-!
What is left of a change that was refused. Nothing is left in the inventory. The routing tables in
front of the listener that refused took the change over and went back; when they are as they were is
said here for every administration, whatever happened to it and to its listeners before.
-/

set_option autoImplicit false
set_option relaxedAutoImplicit false

namespace MetastoreFederation

open Metastore Routing

section Telling

variable {σ : Type} {notify : Notify σ} {event opposite : Event} {listeners : List σ}

theorem mem_notices {e : Event} {count i : Nat} :
    (i, e) ∈ notices event count ↔ i < count ∧ e = event := by
  unfold notices
  rw [List.mem_map]
  constructor
  · rintro ⟨j, hj, heq⟩
    cases heq
    exact ⟨List.mem_range.mp hj, rfl⟩
  · rintro ⟨hi, rfl⟩
    exact ⟨i, List.mem_range.mpr hi, rfl⟩

/-- The listener at a position took the change over: the one behind it was told as well. -/
def PassedOn (told : List Notice) (i : Nat) : Prop := ∃ e, (i + 1, e) ∈ told

theorem passedOn_iff {count i : Nat} :
    PassedOn (notices event (count + 1) ++ notices opposite count) i ↔ i < count := by
  unfold PassedOn
  simp only [List.mem_append, mem_notices]
  constructor
  · rintro ⟨e, ⟨hi, -⟩ | ⟨hi, -⟩⟩
    · exact Nat.lt_of_succ_lt_succ hi
    · exact Nat.lt_of_succ_lt hi
  · intro hi
    exact ⟨event, .inl ⟨Nat.succ_lt_succ hi, rfl⟩⟩

variable {cause : RegistrationError} {i : Nat}

/-- After a refusal, those that took the change over have gone back. -/
theorem getElem?_tell_of_passedOn {l : σ}
    (h : (tell notify event opposite listeners).result = .error cause)
    (hi : PassedOn (tell notify event opposite listeners).notices i)
    (hl : listeners[i]? = some l) :
    (∃ m, notify l event = .ok m) ∧
      (tell notify event opposite listeners).listeners[i]? =
        some (toldBack notify event opposite l) := by
  obtain ⟨front, k, back, hsplit, hfront, -, htold, hnotices⟩ := tell_of_refused h
  rw [hnotices, passedOn_iff] at hi
  rw [hsplit, List.getElem?_append_left hi] at hl
  refine ⟨hfront l (List.mem_of_getElem? hl), ?_⟩
  rw [htold, List.getElem?_append_left (by rwa [List.length_map]), List.getElem?_map, hl]
  rfl

/-- The others are as they were. -/
theorem getElem?_tell_of_not_passedOn
    (h : (tell notify event opposite listeners).result = .error cause)
    (hi : ¬ PassedOn (tell notify event opposite listeners).notices i) :
    (tell notify event opposite listeners).listeners[i]? = listeners[i]? := by
  obtain ⟨front, k, back, hsplit, -, -, htold, hnotices⟩ := tell_of_refused h
  rw [hnotices, passedOn_iff, Nat.not_lt] at hi
  rw [htold, hsplit, List.getElem?_append_right (by rwa [List.length_map]),
    List.getElem?_append_right hi, List.length_map]

end Telling

namespace Administration

variable {κ : Type} {a : Administration (Subscriber κ)} {request : Request} {plan : Plan}

/-- The routing table at a position among the listeners. -/
def table? (a : Administration (Subscriber κ)) (i : Nat) : Option (Table κ) :=
  a.listeners[i]?.bind Subscriber.table?

/-- Nothing is left of a change: the entries are the same, and no routing table can be told apart
from what it was. -/
structure NoTrace (a b : Administration (Subscriber κ)) : Prop where
  entries : b.inventory.entries = a.inventory.entries
  tables : ∀ i t, a.table? i = some t → ∃ u, b.table? i = some u ∧ t.Indistinct u

/-- A routing table can take back a change that was asked for, so that nobody can tell. An addition
is taken back by a removal, which also removes what was there before, and never a primary. A
replacement or a removal is taken back by binding the inventory's entry anew: it has to be the one
that was bound, a client has to be made for it, nothing may have been created through its binding,
and one that was removed has to have stood last. -/
def Reversible {σ : Type} (a : Administration σ) (create : Factory κ) (t : Table κ) :
    Request → Prop
  | .register d => (∃ b ∈ t.bindings, b.name = d.name) ↔ d.isPrimary = true
  | .update old _ => ∃ b ∈ t.bindings, b.name = old ∧ a.inventory.find? old = some b.entry ∧
      (∃ client, create b.definition = .ok client) ∧ t.created.databases b.id = []
  | .unregister name => ∃ b, t.bindings.getLast? = some b ∧
      a.inventory.find? name = some b.entry ∧ ∃ client, create b.definition = .ok client

theorem indistinct_toldBack_iff_reversible {create : Factory κ} {t u : Table κ}
    (h : t.Sound a.inventory.nextId) (hfresh : a.inventory.Fresh) (hplan : a.Plans request plan)
    (haccepted : t.notify create plan.event = .ok u) :
    t.Indistinct (toldBack (Table.notify create) plan.event plan.opposite t) ↔
      a.Reversible create t request := by
  cases hplan with
  | @register d free fits =>
    exact Table.indistinct_toldBack_register (e := a.inventory.newEntry d)
      (h.mono (Nat.le_succ _)) (Nat.lt_succ_self _) haccepted
  | @update old d current found role fits =>
    obtain ⟨hcurrent, -⟩ := Inventory.mem_of_find? found
    have hiff := Table.indistinct_toldBack_update (e := a.inventory.newEntry d) h rfl
      (hfresh current hcurrent) role haccepted
    unfold Reversible
    simp only [found, Option.some.injEq, eq_comm (a := current)]
    exact hiff
  | @unregister name current found federated =>
    obtain ⟨hcurrent, hname⟩ := Inventory.mem_of_find? found
    have hiff := Table.indistinct_toldBack_unregister h (hfresh current hcurrent) hname haccepted
    unfold Reversible
    simp only [found, Option.some.injEq, eq_comm (a := current)]
    exact hiff

theorem NoTrace.refl (a : Administration (Subscriber κ)) : NoTrace a a :=
  ⟨rfl, fun _ t ht => ⟨t, ht, .refl t⟩⟩

theorem table?_of_getElem? {i : Nat} {s : Subscriber κ} (hs : a.listeners[i]? = some s) :
    a.table? i = s.table? := by
  unfold table?
  rw [hs]
  rfl

/-- Where a planned change is refused, nothing is left of it just where all routing tables that took
it over can take it back. -/
theorem noTrace_carryOut_iff (h : a.Sound) (hplan : a.Plans request plan)
    {cause : RegistrationError}
    (hresult : (tell Subscriber.notify plan.event plan.opposite a.listeners).result =
      .error cause) :
    NoTrace a (a.carryOut Subscriber.notify plan).after ↔
      ∀ i s t, a.listeners[i]? = some s → s.table? = some t →
        PassedOn (a.carryOut Subscriber.notify plan).notices i →
        a.Reversible s.create t request := by
  rw [carryOut_of_refused hresult]
  have hreversible : ∀ {i s t}, a.listeners[i]? = some s → s.table? = some t →
      PassedOn (tell Subscriber.notify plan.event plan.opposite a.listeners).notices i →
      (t.Indistinct (toldBack (Table.notify s.create) plan.event plan.opposite t) ↔
        a.Reversible s.create t request) := by
    intro i s t hs ht hi
    obtain ⟨⟨m, hm⟩, -⟩ := getElem?_tell_of_passedOn hresult hi hs
    obtain ⟨u, hu, -⟩ := Subscriber.exists_notify_of_table? ht hm
    exact indistinct_toldBack_iff_reversible (h.subscribers s (List.mem_of_getElem? hs) t ht)
      h.fresh hplan hu
  -- Only tables that passed the change on went back; the others were not touched.
  constructor
  · intro hno i s t hs ht hi
    obtain ⟨-, hback⟩ := getElem?_tell_of_passedOn hresult hi hs
    obtain ⟨u, hu, hindistinct⟩ := hno.tables i t ((table?_of_getElem? hs).trans ht)
    rw [table?_of_getElem? hback, Subscriber.table?_toldBack ht] at hu
    cases hu
    exact (hreversible hs ht hi).mp hindistinct
  · intro hall
    refine ⟨hplan.kept_entries, fun i t ht => ?_⟩
    obtain ⟨s, hs, hst⟩ := Option.bind_eq_some_iff.mp ht
    by_cases hi : PassedOn (tell Subscriber.notify plan.event plan.opposite a.listeners).notices i
    · obtain ⟨-, hback⟩ := getElem?_tell_of_passedOn hresult hi hs
      refine ⟨toldBack (Table.notify s.create) plan.event plan.opposite t, ?_, ?_⟩
      · rw [table?_of_getElem? hback, Subscriber.table?_toldBack hst]
      · exact (hreversible hs hst hi).mpr (hall i s t hs hst hi)
    · refine ⟨t, ?_, .refl t⟩
      rw [table?_of_getElem? ((getElem?_tell_of_not_passedOn hresult hi).trans hs), hst]

theorem noTrace_ask_iff (h : a.Sound) {cause : RegistrationError}
    (hrefused : (a.ask Subscriber.notify request).result = .error cause) :
    (a.ask Subscriber.notify request).after.inventory.entries = a.inventory.entries ∧
      (NoTrace a (a.ask Subscriber.notify request).after ↔
        ∀ i s t, a.listeners[i]? = some s → s.table? = some t →
          PassedOn (a.ask Subscriber.notify request).notices i →
          a.Reversible s.create t request) := by
  rcases ask_cases Subscriber.notify a request with ⟨result, hasked⟩ | ⟨plan, hplan, hasked⟩
  · rw [hasked]
    refine ⟨rfl, fun _ i s t _ _ hpassed => ?_, fun _ => .refl a⟩
    obtain ⟨event, hevent⟩ := hpassed
    exact absurd hevent List.not_mem_nil
  · rw [hasked] at hrefused ⊢
    cases hresult : (tell Subscriber.notify plan.event plan.opposite a.listeners).result with
    | ok _ =>
      rw [carryOut_of_accepted hresult] at hrefused
      cases hrefused
    | error reason =>
      refine ⟨?_, noTrace_carryOut_iff h hplan hresult⟩
      rw [carryOut_of_refused hresult]
      exact hplan.kept_entries

/-- Whatever happened before, a change that is refused leaves the entries as they are, and it leaves
no trace just where all routing tables that took it over can take it back. -/
theorem noTrace_run_ask_iff (resolution : Resolution) (definitions : List Definition)
    (happenings : List (Happening κ)) (request : Request) {cause : RegistrationError} :
    let a := (start resolution definitions).run happenings
    let c := a.ask Subscriber.notify request
    c.result = .error cause →
      c.after.inventory.entries = a.inventory.entries ∧
        (NoTrace a c.after ↔ ∀ i s t, a.listeners[i]? = some s → s.table? = some t →
          PassedOn c.notices i → a.Reversible s.create t request) :=
  noTrace_ask_iff ((sound_start resolution definitions).run happenings)

/-- A routing table subscribes, and behind it an observer that refuses all about one metastore. -/
def watchedBy (refused : String) : List (Happening Unit) :=
  [.subscribe (fun _ => .ok ()) (.pipeline .prefixed),
    .subscribe (fun _ => .ok ()) (.observer "audit" fun event => event.subject == refused),
    .replay]

private theorem bindings_of_computed {a : Administration (Subscriber κ)} {names : List String}
    (h : (a.listeners.filterMap Subscriber.table?).map (fun t => t.bindings.map Binding.name) =
      [names]) {i : Nat} {s : Subscriber κ} {t : Table κ} (hs : a.listeners[i]? = some s)
    (ht : s.table? = some t) : t.bindings.map Binding.name = names := by
  have hmem : t ∈ a.listeners.filterMap Subscriber.table? :=
    List.mem_filterMap.mpr ⟨s, List.mem_of_getElem? hs, ht⟩
  have hnames := List.mem_map_of_mem (f := fun t : Table κ => t.bindings.map Binding.name) hmem
  rw [h] at hnames
  exact List.mem_singleton.mp hnames

/-- A federated metastore that the observer refuses is gone from the routing table as well. -/
theorem noTrace_refused_bee :
    let a := (start .prefixed [{ name := "primary", role := .primary, addresses := "a" }]).run
      (watchedBy "bee")
    let c := a.ask Subscriber.notify (.register { name := "bee", addresses := "b" })
    c.result = .error (.invalidDefinition "bee" "audit refuses register") ∧ NoTrace a c.after := by
  intro a c
  have hrefused : c.result = .error (.invalidDefinition "bee" "audit refuses register") := by
    decide
  refine ⟨hrefused, (noTrace_run_ask_iff .prefixed _ _ _ hrefused).2.mpr fun i s t hs ht _ => ?_⟩
  have hcomputed : (a.listeners.filterMap Subscriber.table?).map
      (fun t => t.bindings.map Binding.name) = [["primary"]] := by decide
  have hnames := bindings_of_computed hcomputed hs ht
  have hfree : ¬ ∃ b ∈ t.bindings, b.name = "bee" := by
    rintro ⟨b, hb, hname⟩
    have hmem := List.mem_map_of_mem (f := Binding.name) hb
    rw [hnames, hname] at hmem
    exact absurd hmem (by decide)
  exact iff_of_false hfree (by decide)

/-- A primary that the observer refuses stays in the routing table. -/
theorem trace_of_refused_primary :
    let a := (start .prefixed [{ name := "waggle", addresses := "a" }]).run (watchedBy "primary")
    let c := a.ask Subscriber.notify
      (.register { name := "primary", role := .primary, addresses := "b" })
    c.result = .error (.invalidDefinition "primary" "audit refuses register") ∧
      (a.table? 0).map (fun t => t.bindings.map Binding.name) = some ["waggle"] ∧
      (c.after.table? 0).map (fun t => t.bindings.map Binding.name) =
        some ["waggle", "primary"] ∧ ¬ NoTrace a c.after := by
  intro a c
  have hbefore : (a.table? 0).map (fun t => t.bindings.map Binding.name) = some ["waggle"] := by
    decide
  have hafter : (c.after.table? 0).map (fun t => t.bindings.map Binding.name) =
      some ["waggle", "primary"] := by
    decide
  refine ⟨by decide, hbefore, hafter, fun hno => ?_⟩
  obtain ⟨t, ht, hnames⟩ := Option.map_eq_some_iff.mp hbefore
  obtain ⟨u, hu, hindistinct⟩ := hno.tables 0 t ht
  rw [hu, Option.map_some, hindistinct.names, hnames] at hafter
  exact absurd hafter (by decide)

end Administration

end MetastoreFederation
