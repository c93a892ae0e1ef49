import Mathlib.Data.List.Basic
import MetastoreFederation.Administration
import MetastoreFederation.Proofs.Metastore.Compatibility
import MetastoreFederation.Proofs.Metastore.Inventory
import MetastoreFederation.Proofs.Routing.Admission

/-!
What a request to the administration comes to. It ends with the checks, or there is a plan: the
listeners are told of a change, and told the opposite where one of them refuses.
-/

set_option autoImplicit false
set_option relaxedAutoImplicit false

namespace MetastoreFederation

open Metastore

variable {σ : Type} {notify : Notify σ} {event opposite : Event}

section Telling

/-- A listener after a change and its opposite, where it did not refuse the change. -/
def toldBack (notify : Notify σ) (event opposite : Event) (l : σ) : σ :=
  match notify l event with
  | .ok m => (notify m opposite).toOption.getD m
  | .error _ => l

theorem toldBack_of_ok {l m : σ} (h : notify l event = .ok m) :
    toldBack notify event opposite l = (notify m opposite).toOption.getD m := by
  unfold toldBack
  rw [h]

/-- Those in front of the first listener that refuses took the change over. -/
theorem make_of_refusal (opposite : Event) {listeners : List σ} {cause : RegistrationError}
    (h : (Announcement.make notify event listeners).refusal = some cause) :
    ∃ front l back, listeners = front ++ l :: back ∧
      (∀ k ∈ front, ∃ m, notify k event = .ok m) ∧ notify l event = .error cause ∧
      (Announcement.make notify event listeners).rest = l :: back ∧
      (Announcement.make notify event listeners).told.length = front.length ∧
      impose notify opposite (Announcement.make notify event listeners).told =
        front.map (toldBack notify event opposite) := by
  -- A listener that takes the change over joins those in front of the one that refuses.
  induction listeners with
  | nil => cases h
  | cons k ks ih =>
    unfold Announcement.make at h ⊢
    cases hk : notify k event with
    | error reason =>
      simp only [hk, Option.some.injEq] at h
      subst h
      exact ⟨[], k, ks, rfl, fun _ hk => absurd hk List.not_mem_nil, hk, rfl, rfl, rfl⟩
    | ok m =>
      simp only [hk] at h
      obtain ⟨front, l, back, rfl, hfront, hl, hrest, hlength, himpose⟩ := ih h
      refine ⟨k :: front, l, back, rfl, ?_, hl, hrest, ?_, ?_⟩
      · exact List.forall_mem_cons.mpr ⟨⟨m, hk⟩, hfront⟩
      · exact congrArg (· + 1) hlength
      · rw [List.map_cons, toldBack_of_ok hk, ← himpose]
        rfl

theorem make_of_acceptance {listeners : List σ}
    (h : (Announcement.make notify event listeners).refusal = none) :
    List.Forall₂ (fun l m => notify l event = .ok m) listeners
      (Announcement.make notify event listeners).told := by
  induction listeners with
  | nil => exact .nil
  | cons l ls ih =>
    unfold Announcement.make at h ⊢
    cases hl : notify l event with
    | error cause => simp [hl] at h
    | ok m =>
      simp only [hl] at h
      exact .cons hl (ih h)

/-- After a refusal, those in front went back, and the one that refused and those behind it are as
they were. -/
theorem tell_of_refused {listeners : List σ} {cause : RegistrationError}
    (h : (tell notify event opposite listeners).result = .error cause) :
    ∃ front l back, listeners = front ++ l :: back ∧
      (∀ k ∈ front, ∃ m, notify k event = .ok m) ∧ notify l event = .error cause ∧
      (tell notify event opposite listeners).listeners =
        front.map (toldBack notify event opposite) ++ l :: back ∧
      (tell notify event opposite listeners).notices =
        notices event (front.length + 1) ++ notices opposite front.length := by
  unfold tell at h ⊢
  cases hrefusal : (Announcement.make notify event listeners).refusal with
  | none => simp [hrefusal] at h
  | some reason =>
    simp only [hrefusal, Except.error.injEq] at h ⊢
    subst h
    obtain ⟨front, l, back, hsplit, hfront, hl, hrest, hlength, himpose⟩ :=
      make_of_refusal opposite hrefusal
    refine ⟨front, l, back, hsplit, hfront, hl, ?_, ?_⟩
    · rw [himpose, hrest]
    · rw [hlength]

theorem tell_of_accepted {listeners : List σ}
    (h : (tell notify event opposite listeners).result = .ok ()) :
    List.Forall₂ (fun l m => notify l event = .ok m) listeners
      (tell notify event opposite listeners).listeners := by
  unfold tell at h ⊢
  cases hrefusal : (Announcement.make notify event listeners).refusal with
  | none =>
    simp only [hrefusal]
    exact make_of_acceptance hrefusal
  | some reason => simp [hrefusal] at h

end Telling

namespace Administration

/-- A change that someone asks for. -/
inductive Request
  | register (d : Definition)
  | update (old : String) (d : Definition)
  | unregister (name : String)

/-- Asks for a change. -/
def ask (notify : Notify σ) (a : Administration σ) : Request → Change σ
  | .register d => a.register notify d
  | .update old d => a.update notify old d
  | .unregister name => a.unregister notify name

/-- What is done about a request: what the listeners are told, and the inventory after it, where one
of them refuses and where none does. -/
structure Plan where
  event : Event
  opposite : Event
  kept : Inventory
  made : Inventory

/-- The plan of a request that passes the checks. -/
inductive Plans (a : Administration σ) : Request → Plan → Prop
  | register {d : Definition} (free : a.inventory.find? d.name = none)
      (fits : checkCompatible a.resolution (a.others d.name) d = .ok ()) :
      Plans a (.register d) ⟨.register (a.inventory.newEntry d), .unregister d.name,
        a.inventory.advance, a.inventory.advance.insert (a.inventory.newEntry d)⟩
  | update {old : String} {d : Definition} {current : Entry}
      (found : a.inventory.find? old = some current) (role : current.definition.role = d.role)
      (fits : checkCompatible a.resolution (a.others old) d = .ok ()) :
      Plans a (.update old d) ⟨.update old (a.inventory.newEntry d), .update d.name current,
        a.inventory.advance, a.inventory.advance.replace old (a.inventory.newEntry d)⟩
  | unregister {name : String} {current : Entry} (found : a.inventory.find? name = some current)
      (federated : current.definition.isPrimary = false) :
      Plans a (.unregister name) ⟨.unregister name, .register current, a.inventory,
        a.inventory.remove name⟩

/-- Tells the listeners, and makes the planned inventory if none refuses. -/
def carryOut (notify : Notify σ) (a : Administration σ) (plan : Plan) : Change σ :=
  let told := tell notify plan.event plan.opposite a.listeners
  match told.result with
  | .ok _ => ⟨{ a with inventory := plan.made, listeners := told.listeners }, told.notices, .ok ()⟩
  | .error cause =>
    ⟨{ a with inventory := plan.kept, listeners := told.listeners }, told.notices, .error cause⟩

theorem carryOut_of_accepted {a : Administration σ} {plan : Plan}
    (h : (tell notify plan.event plan.opposite a.listeners).result = .ok ()) :
    a.carryOut notify plan =
      let told := tell notify plan.event plan.opposite a.listeners
      ⟨{ a with inventory := plan.made, listeners := told.listeners }, told.notices, .ok ()⟩ := by
  unfold carryOut
  dsimp only
  rw [h]

theorem carryOut_of_refused {a : Administration σ} {plan : Plan} {cause : RegistrationError}
    (h : (tell notify plan.event plan.opposite a.listeners).result = .error cause) :
    a.carryOut notify plan =
      let told := tell notify plan.event plan.opposite a.listeners
      ⟨{ a with inventory := plan.kept, listeners := told.listeners }, told.notices,
        .error cause⟩ := by
  unfold carryOut
  dsimp only
  rw [h]

/-- A request ends with the checks, or it is planned and carried out. -/
theorem ask_cases (notify : Notify σ) (a : Administration σ) (request : Request) :
    (∃ result, a.ask notify request = a.unchanged result) ∨
      ∃ plan, a.Plans request plan ∧ a.ask notify request = a.carryOut notify plan := by
  cases request with
  | register d =>
    dsimp only [ask]
    unfold register
    cases hfind : a.inventory.find? d.name with
    | some existing => exact .inl ⟨_, rfl⟩
    | none =>
      cases hcheck : checkCompatible a.resolution (a.others d.name) d with
      | error cause => exact .inl ⟨_, rfl⟩
      | ok _ => exact .inr ⟨_, .register hfind hcheck, rfl⟩
  | update old d =>
    dsimp only [ask]
    unfold update
    cases hfind : a.inventory.find? old with
    | none => exact .inl ⟨_, rfl⟩
    | some current =>
      dsimp only
      split_ifs with hrole hsame
      · exact .inl ⟨_, rfl⟩
      · exact .inl ⟨_, rfl⟩
      · cases hcheck : checkCompatible a.resolution (a.others old) d with
        | error cause => exact .inl ⟨_, rfl⟩
        | ok _ => exact .inr ⟨_, .update hfind (not_not.mp hrole) hcheck, rfl⟩
  | unregister name =>
    dsimp only [ask]
    unfold unregister
    cases hfind : a.inventory.find? name with
    | none => exact .inl ⟨_, rfl⟩
    | some current =>
      dsimp only
      split_ifs with hprimary
      · exact .inl ⟨_, rfl⟩
      · exact .inr ⟨_, .unregister hfind (Bool.not_eq_true _ ▸ hprimary), rfl⟩

variable {a : Administration σ} {request : Request} {plan : Plan}

/-- What is checked against the entries under other names is compatible with them. -/
theorem compatible_of_others {name : String} {d : Definition} {e : Entry}
    (hfits : checkCompatible a.resolution (a.others name) d = .ok ()) (he : e ∈ a.inventory.entries)
    (hname : e.name ≠ name) : Compatible a.resolution d e.definition := by
  obtain ⟨-, hcompatible⟩ := (checkCompatible_eq_ok_iff ..).mp hfits
  apply hcompatible
  exact List.mem_filter.mpr ⟨List.mem_map_of_mem he, bne_iff_ne.mpr hname⟩

theorem Plans.orderly (hplan : a.Plans request plan) (h : a.inventory.Orderly) :
    plan.kept.Orderly ∧ plan.made.Orderly := by
  cases hplan with
  | @register d free fits =>
    have hnames := Inventory.find?_eq_none_iff.mp free
    refine ⟨h.advance, h.insert hnames fun e he => ?_⟩
    exact (compatible_of_others fits he (hnames e he)).primaries
  | @update old d current found role fits =>
    refine ⟨h.advance, h.replace found role fun e he hname => ?_⟩
    exact (compatible_of_others fits he hname).names.symm
  | unregister => exact ⟨h, h.remove _⟩

theorem Plans.fresh (hplan : a.Plans request plan) (h : a.inventory.Fresh) :
    plan.kept.Fresh ∧ plan.made.Fresh := by
  cases hplan with
  | register => exact ⟨h.advance, h.insert _⟩
  | update => exact ⟨h.advance, h.replace _ _⟩
  | unregister => exact ⟨h, h.remove _⟩

theorem Plans.nextId (hplan : a.Plans request plan) :
    a.inventory.nextId ≤ plan.kept.nextId ∧ plan.made.nextId = plan.kept.nextId := by
  cases hplan with
  | register => exact ⟨Nat.le_succ _, rfl⟩
  | update => exact ⟨Nat.le_succ _, rfl⟩
  | unregister => exact ⟨Nat.le_refl _, rfl⟩

/-- Where a listener refuses, nothing happens to the entries. -/
theorem Plans.kept_entries (hplan : a.Plans request plan) :
    plan.kept.entries = a.inventory.entries := by
  cases hplan <;> rfl

end Administration

end MetastoreFederation
