import MetastoreFederation.Administration.Event

/-!
Announcements: telling several listeners of a change, one after another. A listener takes the change
over or refuses it, and one that refuses stays as it is. After a refusal, those told before are told
the opposite, whether they like it or not.
-/

set_option autoImplicit false
set_option relaxedAutoImplicit false

namespace MetastoreFederation

open Metastore

variable {σ : Type}

/-- How a listener takes a change over, if it does not refuse. -/
abbrev Notify (σ : Type) := σ → Event → Except RegistrationError σ

/-- The listeners that took a change over, those that did not, the refusing one first, and why it
refuses. -/
structure Announcement (σ : Type) where
  told : List σ
  rest : List σ
  refusal : Option RegistrationError

namespace Announcement

/-- Tells listeners of a change, up to the first that refuses. -/
def make (notify : Notify σ) (event : Event) : List σ → Announcement σ
  | [] => ⟨[], [], none⟩
  | l :: ls =>
    match notify l event with
    | .error cause => ⟨[], l :: ls, some cause⟩
    | .ok l =>
      let a := make notify event ls
      { a with told := l :: a.told }

/-- All listeners, in their order. -/
def listeners (a : Announcement σ) : List σ := a.told ++ a.rest

end Announcement

/-- Tells listeners of a change where it does not matter if they refuse. -/
def impose (notify : Notify σ) (event : Event) (listeners : List σ) : List σ :=
  listeners.map fun l => (notify l event).toOption.getD l

/-- A notification: which listener was told of what. -/
abbrev Notice := Nat × Event

/-- The notifications of the first `count` listeners. -/
def notices (event : Event) (count : Nat) : List Notice :=
  (List.range count).map fun i => (i, event)

/-- Listeners after changes, the notifications in their order, and the refusal that ended them. -/
structure Told (σ : Type) where
  listeners : List σ
  notices : List Notice
  result : Except RegistrationError Unit

/-- Tells all listeners of a change, or tells those the opposite that were told before one refused.
-/
def tell (notify : Notify σ) (event opposite : Event) (listeners : List σ) : Told σ :=
  let a := Announcement.make notify event listeners
  match a.refusal with
  | none => ⟨a.told, notices event a.told.length, .ok ()⟩
  | some cause =>
    ⟨impose notify opposite a.told ++ a.rest,
      notices event (a.told.length + 1) ++ notices opposite a.told.length, .error cause⟩

/-- Tells all listeners to register entries, one entry after another, up to the first refusal. -/
def replay (notify : Notify σ) : List Entry → List σ → Told σ
  | [], listeners => ⟨listeners, [], .ok ()⟩
  | e :: entries, listeners =>
    let a := Announcement.make notify (.register e) listeners
    match a.refusal with
    | some cause => ⟨a.listeners, notices (.register e) (a.told.length + 1), .error cause⟩
    | none =>
      let r := replay notify entries a.told
      { r with notices := notices (.register e) a.told.length ++ r.notices }

end MetastoreFederation
