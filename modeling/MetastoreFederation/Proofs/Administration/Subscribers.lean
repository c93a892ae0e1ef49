import MetastoreFederation.Proofs.Administration.Requests
import MetastoreFederation.Proofs.Routing.Freshness

/-!
Administrations with their listeners over time. Each listener makes clients in its own way, and it
may be told of changes that the others are not told of.
-/

set_option autoImplicit false
set_option relaxedAutoImplicit false

namespace MetastoreFederation

open Metastore Routing

section Telling

variable {σ : Type} {notify : Notify σ} {event opposite : Event} {listeners : List σ} {P : σ → Prop}

/-- What a listener keeps when it takes a change over, all keep when they are told of it. -/
theorem forall_mem_make (hP : ∀ l m, P l → notify l event = .ok m → P m)
    (h : ∀ l ∈ listeners, P l) :
    ∀ l ∈ (Announcement.make notify event listeners).listeners, P l := by
  induction listeners with
  | nil => exact h
  | cons k ks ih =>
    obtain ⟨hk, hks⟩ := List.forall_mem_cons.mp h
    unfold Announcement.make
    cases hnotify : notify k event with
    | error cause => exact h
    | ok m => exact List.forall_mem_cons.mpr ⟨hP k m hk hnotify, ih hks⟩

theorem forall_mem_tell (hevent : ∀ l m, P l → notify l event = .ok m → P m)
    (hopposite : ∀ l m, P l → notify l opposite = .ok m → P m) (h : ∀ l ∈ listeners, P l) :
    ∀ l ∈ (tell notify event opposite listeners).listeners, P l := by
  have hmake := List.forall_mem_append.mp (forall_mem_make hevent h)
  unfold tell
  dsimp only
  split
  · exact hmake.1
  · refine List.forall_mem_append.mpr ⟨fun l hl => ?_, hmake.2⟩
    obtain ⟨k, hk, rfl⟩ := List.mem_map.mp hl
    cases hnotify : notify k opposite with
    | error cause => exact hmake.1 k hk
    | ok m => exact hopposite k m (hmake.1 k hk) hnotify

theorem forall_mem_modify {f : σ → σ} (hf : ∀ l, P l → P (f l)) (h : ∀ l ∈ listeners, P l)
    (i : Nat) : ∀ l ∈ listeners.modify i f, P l := by
  induction listeners generalizing i with
  | nil => simp
  | cons k ks ih =>
    obtain ⟨hk, hks⟩ := List.forall_mem_cons.mp h
    cases i with
    | zero => exact List.forall_mem_cons.mpr ⟨hf k hk, hks⟩
    | succ i => exact List.forall_mem_cons.mpr ⟨hk, ih hks i⟩

theorem forall_mem_replay {entries : List Entry}
    (hP : ∀ e ∈ entries, ∀ l m, P l → notify l (.register e) = .ok m → P m)
    (h : ∀ l ∈ listeners, P l) : ∀ l ∈ (replay notify entries listeners).listeners, P l := by
  induction entries generalizing listeners with
  | nil => exact h
  | cons e entries ih =>
    obtain ⟨he, hentries⟩ := List.forall_mem_cons.mp hP
    have hmake := forall_mem_make he h
    unfold replay
    dsimp only
    split
    · exact hmake
    · exact ih hentries (List.forall_mem_append.mp hmake).1

end Telling

variable {κ : Type}

/-- One that is told of changes, and how clients are made there. -/
structure Subscriber (κ : Type) where
  create : Factory κ
  listener : Listener κ

namespace Subscriber

/-- A routing table, or an observer that only refuses what it does not like. -/
inductive Kind
  | pipeline (resolution : Resolution)
  | observer (label : String) (refuses : Event → Bool)

def subscribe (create : Factory κ) : Kind → Subscriber κ
  | .pipeline resolution => ⟨create, .routing (.empty resolution)⟩
  | .observer label refuses => ⟨create, .observer label refuses⟩

def notify (s : Subscriber κ) (event : Event) : Except RegistrationError (Subscriber κ) := do
  return { s with listener := ← s.listener.notify s.create event }

def table? (s : Subscriber κ) : Option (Table κ) := s.listener.table?

/-- From now on clients are made in another way, and other changes are refused. -/
def turn (s : Subscriber κ) (create : Factory κ) (refuses : Event → Bool) : Subscriber κ :=
  match s.listener with
  | .routing t => ⟨create, .routing t⟩
  | .observer label _ => ⟨create, .observer label refuses⟩

/-- Takes note of a database that was created at a metastore of the routing table. -/
def noteCreated (s : Subscriber κ) (name database : String) : Subscriber κ :=
  match s.listener with
  | .routing t => { s with listener := .routing (t.noteCreated name database) }
  | .observer .. => s

def Sound (bound : Nat) (s : Subscriber κ) : Prop := ∀ t ∈ s.table?, t.Sound bound

variable {s m : Subscriber κ} {event opposite : Event} {bound : Nat} {t : Table κ}

theorem notify_of_table? (ht : s.table? = some t) :
    s.notify event = (t.notify s.create event).map fun u => { s with listener := .routing u } := by
  obtain ⟨create, listener⟩ := s
  cases listener with
  | observer label refuses => cases ht
  | routing table =>
    cases ht
    unfold notify Listener.notify
    dsimp only
    cases t.notify create event <;> rfl

theorem notify_of_observer (ht : s.table? = none) (hnotify : s.notify event = .ok m) : m = s := by
  obtain ⟨create, listener⟩ := s
  cases listener with
  | routing table => cases ht
  | observer label refuses =>
    unfold notify Listener.notify at hnotify
    dsimp only at hnotify
    split_ifs at hnotify
    · cases hnotify
    · exact (Except.ok.inj hnotify).symm

theorem exists_notify_of_table? (ht : s.table? = some t) (hnotify : s.notify event = .ok m) :
    ∃ u, t.notify s.create event = .ok u ∧ m.table? = some u := by
  rw [notify_of_table? ht] at hnotify
  cases hu : t.notify s.create event with
  | error cause =>
    rw [hu] at hnotify
    cases hnotify
  | ok u =>
    rw [hu] at hnotify
    cases hnotify
    exact ⟨u, rfl, rfl⟩

theorem Sound.notify (h : s.Sound bound) (hbound : event.bound ≤ bound)
    (hnotify : s.notify event = .ok m) : m.Sound bound := by
  cases ht : s.table? with
  | none =>
    rw [notify_of_observer ht hnotify]
    exact h
  | some t =>
    obtain ⟨u, hu, hm⟩ := exists_notify_of_table? ht hnotify
    intro v hv
    rw [hm] at hv
    cases hv
    exact (h t ht).notify hbound hu

/-- A subscriber goes back as its table does. -/
theorem table?_toldBack (ht : s.table? = some t) :
    (toldBack Subscriber.notify event opposite s).table? =
      some (toldBack (Table.notify s.create) event opposite t) := by
  unfold toldBack
  rw [notify_of_table? ht]
  cases hu : t.notify s.create event with
  | error cause => exact ht
  | ok u =>
    have htable : (Subscriber.mk s.create (.routing u)).table? = some u := rfl
    dsimp only [Except.map]
    rw [notify_of_table? htable]
    cases u.notify s.create opposite <;> rfl

end Subscriber

namespace Administration

/-- What may happen around an administration: another one subscribes to changes; a change is asked
for; all entries are registered with the listeners again; a listener alone is told of something; a
database is created through a routing table; a listener changes its ways. -/
inductive Happening (κ : Type)
  | subscribe (create : Factory κ) (kind : Subscriber.Kind)
  | ask (request : Request)
  | replay
  | direct (i : Nat) (event : Event)
  | created (i : Nat) (name database : String)
  | turn (i : Nat) (create : Factory κ) (refuses : Event → Bool)

/-- The administration of an inventory that nobody has subscribed to. -/
def start (resolution : Resolution) (definitions : List Definition) :
    Administration (Subscriber κ) :=
  ⟨resolution, .ofDefinitions definitions, []⟩

def happen (a : Administration (Subscriber κ)) : Happening κ → Administration (Subscriber κ)
  | .subscribe create kind => { a with listeners := a.listeners ++ [.subscribe create kind] }
  | .ask request => (a.ask Subscriber.notify request).after
  | .replay =>
    { a with
      listeners := (MetastoreFederation.replay Subscriber.notify a.inventory.entries
        a.listeners).listeners }
  | .direct i event =>
    { a with
      inventory := { a.inventory with nextId := max a.inventory.nextId event.bound }
      listeners := a.listeners.modify i fun s => (s.notify event).toOption.getD s }
  | .created i name database =>
    { a with listeners := a.listeners.modify i fun s => s.noteCreated name database }
  | .turn i create refuses =>
    { a with listeners := a.listeners.modify i fun s => s.turn create refuses }

/-- The administration after all that happened. -/
def run (a : Administration (Subscriber κ)) (happenings : List (Happening κ)) :
    Administration (Subscriber κ) :=
  happenings.foldl happen a

/-- What holds of an administration through all that happens. -/
structure Sound (a : Administration (Subscriber κ)) : Prop where
  fresh : a.inventory.Fresh
  subscribers : ∀ s ∈ a.listeners, s.Sound a.inventory.nextId

variable {a : Administration (Subscriber κ)} {request : Request} {plan : Plan}

theorem Plans.bound (hplan : a.Plans request plan) (h : a.inventory.Fresh) :
    plan.event.bound ≤ plan.kept.nextId ∧ plan.opposite.bound ≤ plan.kept.nextId := by
  cases hplan with
  | register => exact ⟨Nat.le_refl _, Nat.zero_le _⟩
  | update found =>
    exact ⟨Nat.le_refl _, Nat.le_succ_of_le (h _ (Inventory.mem_of_find? found).1)⟩
  | unregister found => exact ⟨Nat.zero_le _, h _ (Inventory.mem_of_find? found).1⟩

theorem sound_start (resolution : Resolution) (definitions : List Definition) :
    (start resolution definitions : Administration (Subscriber κ)).Sound where
  fresh := Inventory.fresh_ofDefinitions definitions
  subscribers _ hs := absurd hs List.not_mem_nil

theorem Sound.ask (h : a.Sound) (request : Request) :
    (a.ask Subscriber.notify request).after.Sound := by
  rcases ask_cases Subscriber.notify a request with ⟨result, hasked⟩ | ⟨plan, hplan, hasked⟩
  · rw [hasked]
    exact h
  · rw [hasked]
    obtain ⟨hkept, hmade⟩ := hplan.fresh h.fresh
    obtain ⟨hevent, hopposite⟩ := hplan.bound h.fresh
    obtain ⟨hle, hnextId⟩ := hplan.nextId
    have htold : ∀ s ∈ (tell Subscriber.notify plan.event plan.opposite a.listeners).listeners,
        s.Sound plan.kept.nextId := by
      refine forall_mem_tell (fun _ _ hs hm => hs.notify hevent hm)
        (fun _ _ hs hm => hs.notify hopposite hm) fun s hs t ht => ?_
      exact (h.subscribers s hs t ht).mono hle
    cases hresult : (tell Subscriber.notify plan.event plan.opposite a.listeners).result with
    | ok _ =>
      rw [carryOut_of_accepted hresult]
      exact ⟨hmade, fun s hs => hnextId ▸ htold s hs⟩
    | error cause =>
      rw [carryOut_of_refused hresult]
      exact ⟨hkept, htold⟩

theorem Sound.happen (h : a.Sound) (happening : Happening κ) : (a.happen happening).Sound := by
  cases happening with
  | subscribe create kind =>
    refine ⟨h.fresh, List.forall_mem_append.mpr ⟨h.subscribers, ?_⟩⟩
    rintro s hs t ht
    rw [List.mem_singleton.mp hs] at ht
    cases kind with
    | pipeline resolution =>
      cases ht
      exact Table.sound_empty _ resolution
    | observer label refuses => cases ht
  | ask request => exact h.ask request
  | replay =>
    refine ⟨h.fresh, forall_mem_replay (fun e he s m hs hm => ?_) h.subscribers⟩
    have hbound : (Event.register e).bound ≤ a.inventory.nextId := h.fresh e he
    exact hs.notify hbound hm
  | direct i event =>
    -- From now on the identity that comes with the event counts as used.
    have hle := Nat.le_max_left a.inventory.nextId event.bound
    refine ⟨fun e he => Nat.lt_of_lt_of_le (h.fresh e he) hle, ?_⟩
    refine forall_mem_modify (P := Subscriber.Sound (max a.inventory.nextId event.bound))
      (fun s hs => ?_) (fun s hs t ht => (h.subscribers s hs t ht).mono hle) i
    cases hm : s.notify event with
    | error cause => exact hs
    | ok m => exact hs.notify (Nat.le_max_right _ _) hm
  | created i name database =>
    refine ⟨h.fresh, forall_mem_modify (fun s hs => ?_) h.subscribers i⟩
    obtain ⟨create, listener⟩ := s
    cases listener with
    | routing table =>
      intro t ht
      cases ht
      exact (hs table rfl).noteCreated name database
    | observer label refuses => exact hs
  | turn i create refuses =>
    refine ⟨h.fresh, forall_mem_modify (fun s hs => ?_) h.subscribers i⟩
    obtain ⟨create, listener⟩ := s
    cases listener with
    | routing table => exact hs
    | observer label refuses => exact hs

theorem Sound.run (h : a.Sound) (happenings : List (Happening κ)) : (a.run happenings).Sound := by
  induction happenings generalizing a with
  | nil => exact h
  | cons happening happenings ih => exact ih (h.happen happening)

end Administration

end MetastoreFederation
