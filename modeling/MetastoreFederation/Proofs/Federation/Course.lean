import Mathlib.Data.List.Induction
import Mathlib.Data.Multiset.Count
import MetastoreFederation.Proofs.Federation.InStep

/-!
Courses of a federation: what happens to it, one thing after another, in any order in which it can
happen. A change that someone asks for takes two steps. With the first one it is planned, and the
inventory shows what comes; with the second one the routing table takes it over or refuses it.
Probes start, answer and get lost at any time in between, and no probe is bound to the refresh that
started it.
-/

set_option autoImplicit false
set_option relaxedAutoImplicit false

namespace MetastoreFederation

open Metastore Routing

variable {κ : Type} {create : Factory κ}

namespace Administration

namespace Plan

/-- The entry that a plan brings in. -/
def newcomer? (plan : Plan) : Option Entry :=
  match plan.event with
  | .register e => some e
  | .update _ e => some e
  | .unregister _ => none

/-- The inventory before the listeners have been told. An entry that comes is there already, and one
that goes is there still. -/
def meanwhile (plan : Plan) : Inventory :=
  match plan.event with
  | .unregister _ => plan.kept
  | _ => plan.made

end Plan

variable {σ : Type} {a : Administration σ} {request : Request} {plan : Plan}

theorem Plans.statuses (hplan : a.Plans request plan) :
    plan.kept.statuses = a.inventory.statuses ∧ plan.made.statuses = a.inventory.statuses := by
  cases hplan <;> exact ⟨rfl, rfl⟩

theorem Plans.mem_made (hplan : a.Plans request plan) {e : Entry} (he : e ∈ plan.made.entries) :
    e ∈ a.inventory.entries ∨ plan.newcomer? = some e := by
  cases hplan with
  | @register d free fits =>
    rcases List.mem_cons.mp ((Inventory.perm_insert a.inventory.advance _).mem_iff.mp he) with
      rfl | he
    · exact .inr rfl
    · exact .inl he
  | update found role fits =>
    rcases mem_of_mem_replaceFirst he with rfl | he
    · exact .inr rfl
    · exact .inl he
  | unregister found federated => exact .inl (List.mem_of_mem_eraseP he)

/-- An entry that comes has the next identity, and no other one gets it. -/
theorem Plans.id_newcomer (hplan : a.Plans request plan) {e : Entry}
    (he : plan.newcomer? = some e) :
    e.id = a.inventory.nextId ∧ plan.meanwhile.nextId = e.id + 1 := by
  cases hplan with
  | register => cases he; exact ⟨rfl, rfl⟩
  | update => cases he; exact ⟨rfl, rfl⟩
  | unregister => cases he

theorem Plans.nextId_meanwhile (hplan : a.Plans request plan) :
    a.inventory.nextId ≤ plan.meanwhile.nextId := by
  cases hplan with
  | register => exact Nat.le_succ _
  | update => exact Nat.le_succ _
  | unregister => exact Nat.le_refl _

theorem Plans.nextId_meanwhile_eq (hplan : a.Plans request plan) :
    plan.meanwhile.nextId = plan.kept.nextId ∧ plan.meanwhile.nextId = plan.made.nextId := by
  cases hplan <;> exact ⟨rfl, rfl⟩

theorem Plans.meanwhile_cases (hplan : a.Plans request plan) :
    plan.meanwhile = plan.kept ∨ plan.meanwhile = plan.made := by
  cases hplan with
  | register => exact .inr rfl
  | update => exact .inr rfl
  | unregister => exact .inl rfl

theorem Plans.statuses_meanwhile (hplan : a.Plans request plan) :
    plan.meanwhile.statuses = a.inventory.statuses := by
  obtain ⟨hkept, hmade⟩ := hplan.statuses
  rcases hplan.meanwhile_cases with h | h <;> rw [h]
  · exact hkept
  · exact hmade

end Administration

open Administration (Plan Request)

namespace Federation

/-- A federation at one moment: the change that it is in the middle of, if there is one, and for
each probe under way the identity of its entry. -/
structure Moment (κ : Type) where
  resolution : Resolution
  table : Table κ
  inventory : Inventory
  change : Option Plan
  underway : Multiset Nat

/-- What can happen to a federation. -/
inductive Happening
  | used
  | begun (newcomer : Option Entry)
  | ended
  | started (id : Nat)
  | answered (id : Nat) (status : Status)
  | lost (id : Nat)
deriving DecidableEq

namespace Happening

/-- The entry whose probe starts or ends. -/
def probed? : Happening → Option Nat
  | started id | answered id _ | lost id => some id
  | _ => none

/-- The entry that comes with a change. -/
def newcomer? : Happening → Option Entry
  | begun e => e
  | _ => none

/-- The answer of a probe of an entry. -/
def answer? (id : Nat) : Happening → Option Status
  | answered i status => if i = id then some status else none
  | _ => none

/-- A probe of the entry ends, with an answer or without one. -/
def ends (id : Nat) : Happening → Bool
  | answered i _ | lost i => i == id
  | _ => false

end Happening

/-- A federation as the moment between two changes. -/
def moment (f : Federation κ) : Moment κ where
  resolution := f.settings.resolution
  table := f.table
  inventory := f.inventory
  change := none
  underway := f.watch.flights.map Health.Flight.id

namespace Moment

def administration (p : Moment κ) : Administration (Table κ) :=
  ⟨p.resolution, p.inventory, [p.table]⟩

/-- The available bindings, by the statuses of the moment. -/
def available (p : Moment κ) : List (Binding κ) := p.table.available p.inventory.statuses

/-- From one moment to the next. No change is planned in the middle of another one. A probe can be
started for every entry that there has ever been, since whoever starts it may have looked it up long
ago. -/
inductive Step : Moment κ → Happening → Moment κ → Prop
  | uses {p : Moment κ} {t : Table κ} (same : t.registry = p.table.registry) :
      Step p .used { p with table := t }
  | begins {p : Moment κ} {request : Request} {plan : Plan} (free : p.change = none)
      (plans : p.administration.Plans request plan) :
      Step p (.begun plan.newcomer?)
        { p with inventory := plan.meanwhile, change := some plan }
  | accepted {p : Moment κ} {plan : Plan} {create : Factory κ} {t : Table κ}
      (change : p.change = some plan) (takes : p.table.notify create plan.event = .ok t) :
      Step p .ended
        { p with
          table := t
          inventory := { p.inventory with entries := plan.made.entries }
          change := none }
  | refused {p : Moment κ} {plan : Plan} {create : Factory κ} {cause : RegistrationError}
      (change : p.change = some plan)
      (refuses : p.table.notify create plan.event = .error cause) :
      Step p .ended
        { p with
          inventory := { p.inventory with entries := plan.kept.entries }
          change := none }
  | starts {p : Moment κ} {id : Nat} (known : id < p.inventory.nextId) :
      Step p (.started id) { p with underway := id ::ₘ p.underway }
  | answers {p : Moment κ} {id : Nat} {status : Status} {rest : Multiset Nat}
      (underway : p.underway = id ::ₘ rest) :
      Step p (.answered id status)
        { p with inventory := p.inventory.record id status, underway := rest }
  | loses {p : Moment κ} {id : Nat} {rest : Multiset Nat} (underway : p.underway = id ::ₘ rest) :
      Step p (.lost id) { p with underway := rest }

/-- A course leads from one moment to another through what it lists. -/
inductive Course (p : Moment κ) : List Happening → Moment κ → Prop
  | refl : Course p [] p
  | tail {trace : List Happening} {q r : Moment κ} {h : Happening} (course : Course p trace q)
      (step : Step q h r) : Course p (trace ++ [h]) r

variable {p q r : Moment κ} {h : Happening} {trace later : List Happening}

theorem Step.course (hstep : Step p h q) : Course p [h] q := .tail .refl hstep

theorem Course.trans (hfirst : Course p trace q) (hlater : Course q later r) :
    Course p (trace ++ later) r := by
  induction hlater with
  | refl => rwa [List.append_nil]
  | tail hcourse hstep ih =>
    rw [← List.append_assoc]
    exact ih.tail hstep

theorem course_append_singleton_iff :
    Course p (trace ++ [h]) r ↔ ∃ q, Course p trace q ∧ Step q h r := by
  constructor
  · generalize hall : trace ++ [h] = all
    intro hcourse
    cases hcourse with
    | refl => simp at hall
    | tail hcourse hstep =>
      obtain ⟨rfl, hlast⟩ := List.append_inj' hall rfl
      obtain rfl := List.singleton_inj.mp hlast
      exact ⟨_, hcourse, hstep⟩
  · rintro ⟨q, hcourse, hstep⟩
    exact hcourse.tail hstep

/-- A course can be stopped at any place. -/
theorem Course.split (hcourse : Course p (trace ++ later) r) :
    ∃ q, Course p trace q ∧ Course q later r := by
  induction later using List.reverseRecOn generalizing r with
  | nil =>
    rw [List.append_nil] at hcourse
    exact ⟨r, hcourse, .refl⟩
  | append_singleton later h ih =>
    rw [← List.append_assoc] at hcourse
    obtain ⟨last, hcourse, hstep⟩ := course_append_singleton_iff.mp hcourse
    obtain ⟨q, hfirst, hlater⟩ := ih hcourse
    exact ⟨q, hfirst, hlater.tail hstep⟩

section Kept

/-- The registry is coherent all the time. -/
theorem coherent_step (hstep : Step p h q) (hcoherent : p.table.registry.Coherent) :
    q.table.registry.Coherent := by
  cases hstep with
  | uses same => exact same ▸ hcoherent
  | accepted change takes => exact Table.coherent_notify hcoherent takes
  | _ => exact hcoherent

theorem coherent_course (hcourse : Course p trace q) (hcoherent : p.table.registry.Coherent) :
    q.table.registry.Coherent := by
  induction hcourse with
  | refl => exact hcoherent
  | tail _ hstep ih => exact coherent_step hstep ih

theorem nextId_step (hstep : Step p h q) : p.inventory.nextId ≤ q.inventory.nextId := by
  cases hstep with
  | begins free plans => exact plans.nextId_meanwhile
  | _ => exact Nat.le_refl _

end Kept

section Linked

/-- The inventory that the routing table is in step with: the one that is shown, or the one in which
the change was planned that is under way. -/
inductive Stands (p : Moment κ) (i : Inventory) : Prop
  | settled (free : p.change = none) (entries : p.inventory.entries = i.entries)
      (nextId : p.inventory.nextId = i.nextId)
  | changing {a : Administration (Table κ)} {request : Request} {plan : Plan}
      (change : p.change = some plan) (inventory : a.inventory = i)
      (plans : a.Plans request plan) (nextId : p.inventory.nextId = plan.meanwhile.nextId)

/-- The routing table is in step with the inventory, but for a change under way. -/
structure Linked (p : Moment κ) : Prop where
  coherent : p.table.registry.Coherent
  standing : ∃ i, p.Stands i ∧ i.Orderly ∧ (p.table.bindings.map Binding.entry).Perm i.entries

theorem orderly_of_entries {i j : Inventory} (horderly : j.Orderly)
    (hentries : i.entries = j.entries) (hnextId : i.nextId = j.nextId) : i.Orderly where
  names := hentries ▸ horderly.names
  ids := hentries ▸ horderly.ids
  fresh := by
    unfold Inventory.Fresh
    rw [hentries, hnextId]
    exact horderly.fresh
  primaryFirst := hentries ▸ horderly.primaryFirst

theorem Stands.of_eq {i : Inventory} (hstands : p.Stands i) (hchange : q.change = p.change)
    (hentries : q.inventory.entries = p.inventory.entries)
    (hnextId : q.inventory.nextId = p.inventory.nextId) : q.Stands i := by
  cases hstands with
  | settled free entries nextId =>
    exact .settled (hchange.trans free) (hentries.trans entries) (hnextId.trans nextId)
  | changing change inventory plans nextId =>
    exact .changing (hchange.trans change) inventory plans (hnextId.trans nextId)

/-- A moment that is in the middle of no change stands for its own inventory. -/
theorem Linked.settled (hlinked : p.Linked) (hfree : p.change = none) :
    p.inventory.Orderly ∧ (p.table.bindings.map Binding.entry).Perm p.inventory.entries := by
  obtain ⟨i, hstands, horderly, hentries⟩ := hlinked.standing
  cases hstands with
  | settled free entries nextId =>
    refine ⟨orderly_of_entries horderly entries nextId, ?_⟩
    rwa [entries]
  | changing change =>
    rw [hfree] at change
    cases change

/-- What a change that is under way was planned for. -/
theorem Linked.changing (hlinked : p.Linked) {plan : Plan} (hchange : p.change = some plan) :
    ∃ (a : Administration (Table κ)) (request : Request), a.Plans request plan ∧
      a.inventory.Orderly ∧ (p.table.bindings.map Binding.entry).Perm a.inventory.entries ∧
      p.inventory.nextId = plan.meanwhile.nextId := by
  obtain ⟨i, hstands, horderly, hentries⟩ := hlinked.standing
  cases hstands with
  | settled free =>
    rw [hchange] at free
    cases free
  | @changing a request planned change inventory plans nextId =>
    obtain rfl := Option.some.inj (hchange.symm.trans change)
    subst inventory
    exact ⟨a, request, plans, horderly, hentries, nextId⟩

/-- A change that comes to its end leaves what was planned for that end. -/
theorem linked_ended {t : Table κ} {i planned : Inventory} (hcoherent : t.registry.Coherent)
    (horderly : planned.Orderly) (hnextId : i.nextId = planned.nextId)
    (hentries : (t.bindings.map Binding.entry).Perm planned.entries) :
    Linked
      { p with
        table := t
        inventory := { i with entries := planned.entries }
        change := none } where
  coherent := hcoherent
  standing := ⟨planned, .settled rfl rfl hnextId, horderly, hentries⟩

theorem linked_step (hstep : Step p h q) (hlinked : p.Linked) : q.Linked := by
  have hcoherent := coherent_step hstep hlinked.coherent
  obtain ⟨i, hstands, horderly, hentries⟩ := hlinked.standing
  cases hstep with
  | @uses t same =>
    refine ⟨hcoherent, i, hstands.of_eq rfl rfl rfl, horderly, ?_⟩
    have hbindings : t.bindings = p.table.bindings := congrArg (fun r => r.snapshot.bindings) same
    rwa [hbindings]
  | begins free plans =>
    obtain ⟨horderly, hentries⟩ := hlinked.settled free
    exact ⟨hcoherent, p.inventory, .changing rfl rfl plans rfl, horderly, hentries⟩
  | accepted change takes =>
    obtain ⟨a, request, hplan, horderly, hentries, hnextId⟩ := hlinked.changing change
    have hmade := entries_of_notify hlinked.coherent horderly hentries hplan takes
    refine linked_ended hcoherent (hplan.orderly horderly).2 (hnextId.trans ?_) hmade
    exact hplan.nextId_meanwhile_eq.2
  | refused change refuses =>
    obtain ⟨a, request, hplan, horderly, hentries, hnextId⟩ := hlinked.changing change
    refine linked_ended hcoherent (hplan.orderly horderly).1 (hnextId.trans ?_) ?_
    · exact hplan.nextId_meanwhile_eq.1
    · rwa [hplan.kept_entries]
  | starts => exact ⟨hcoherent, i, hstands.of_eq rfl rfl rfl, horderly, hentries⟩
  | answers => exact ⟨hcoherent, i, hstands.of_eq rfl rfl rfl, horderly, hentries⟩
  | loses => exact ⟨hcoherent, i, hstands.of_eq rfl rfl rfl, horderly, hentries⟩

theorem linked_course (hcourse : Course p trace q) (hlinked : p.Linked) : q.Linked := by
  induction hcourse with
  | refl => exact hlinked
  | tail _ hstep ih => exact linked_step hstep ih

end Linked

end Moment

section Start

variable {settings : Settings} {inventory : Inventory} {f : Federation κ}

/-- A table that is told of entries one after another takes over what its registry does. -/
theorem replay_of_registerAll {entries : List Entry} {t : Table κ} {r : Registry κ}
    (hall : Registry.registerAll create t.registry entries = .ok r) :
    (replay (Table.notify create) entries [t]).result = .ok () ∧
      (replay (Table.notify create) entries [t]).listeners = [{ t with registry := r }] := by
  induction entries generalizing t with
  | nil =>
    cases hall
    exact ⟨rfl, rfl⟩
  | cons e entries ih =>
    obtain ⟨next, hregister, hrest⟩ := Registry.registerAll_cons_eq_ok_iff.mp hall
    have hnotify : t.notify create (.register e) = .ok { t with registry := next } :=
      Table.notify_eq_ok_iff.mpr ⟨next, hregister, rfl⟩
    unfold replay Announcement.make
    rw [hnotify]
    exact ih hrest

/-- A federation starts where the settings are right and all entries can be registered. -/
theorem start_eq_ok_iff :
    start create settings inventory = .ok f ↔
      settings.problems = [] ∧
        ∃ r, Registry.registerAll create (.empty settings.resolution) inventory.entries = .ok r ∧
          f = ⟨settings, ⟨r, .empty, .empty⟩, .ofInventory inventory⟩ := by
  unfold start
  constructor
  · intro hstart
    split_ifs at hstart with hproblems
    rw [Bool.not_eq_true, Bool.not_eq_false'] at hproblems
    dsimp only at hstart
    split at hstart
    · cases hstart
    · next hresult =>
      cases hstart
      obtain ⟨r, hall, hlisteners⟩ := registerAll_of_replay hresult
      exact ⟨List.isEmpty_iff.mp hproblems, r, hall, by rw [hlisteners]; rfl⟩
  · rintro ⟨hproblems, r, hall, rfl⟩
    obtain ⟨hresult, hlisteners⟩ :=
      replay_of_registerAll (t := .empty settings.resolution) hall
    rw [if_neg (by simp [hproblems])]
    dsimp only
    rw [hresult, hlisteners]
    rfl

theorem coherent_start (hstart : start create settings inventory = .ok f) :
    f.table.registry.Coherent := by
  obtain ⟨-, r, hall, rfl⟩ := start_eq_ok_iff.mp hstart
  exact (Registry.extended_registerAll (Registry.coherent_empty settings.resolution) hall).coherent

theorem Linked.moment (hlinked : f.Linked) : f.moment.Linked :=
  ⟨hlinked.coherent, f.inventory, .settled rfl rfl rfl, hlinked.orderly, hlinked.entries⟩

end Start

end Federation

end MetastoreFederation
