import Mathlib.Data.Multiset.MapFold
import MetastoreFederation.Proofs.Federation.Course

/-!
How time passes for a federation. The probe of an entry answers after its time, with the status that
it finds, and a regular refresh starts when it is due. Time does not pass over either of them, so
nothing that is due is left out. What the watch does when time passes for it happens in this way.
-/

set_option autoImplicit false
set_option relaxedAutoImplicit false

namespace MetastoreFederation.Federation

open Metastore Request Routing Health

/-- What there is to come at some time: the answers of the probes under way and the next refresh. -/
structure Outlook where
  now : Nat
  inventory : Inventory
  underway : Multiset Flight
  polling : Option Polling

namespace Outlook

/-- The outlook of a watch that has come up to a time. -/
def ofWatch (w : Watch) (now : Nat) : Outlook := ⟨now, w.inventory, w.flights, w.polling⟩

/-- The answers of the probes that start at a time for some entries. -/
def answers (probe : Probe) (time bound : Nat) (entries : List Entry) : List Flight :=
  entries.filterMap fun e =>
    match probe e.definition with
    | .silent | .lost _ => none
    | .answered delay status => some ⟨e.id, time + delay, status, bound⟩

/-- Probes start for some entries. Those that will never answer are as good as lost at once. -/
def starts (probe : Probe) (entries : List Entry) : List Happening :=
  entries.flatMap fun e =>
    match probe e.definition with
    | .silent | .lost _ => [.started e.id, .lost e.id]
    | .answered .. => [.started e.id]

/-- The outlook when probes have started for some entries. -/
def launched (probe : Probe) (bound : Nat) (entries : List Entry) (o : Outlook) : Outlook :=
  { o with underway := o.underway + answers probe o.now bound entries }

/-- One thing after another: an answer that is due comes in, a refresh that is due starts for all
entries, or time passes up to what is due next. -/
inductive Step (probe : Probe) (deadline : Nat) : Outlook → List Happening → Outlook → Prop
  | answers {o : Outlook} {f : Flight} {rest : Multiset Flight} (underway : o.underway = f ::ₘ rest)
      (due : f.time = o.now) :
      Step probe deadline o [.answered f.id f.status]
        { o with inventory := o.inventory.record f.id f.status, underway := rest }
  | polls {o : Outlook} {p : Polling} {busy : Nat} (polling : o.polling = some p)
      (due : max p.due p.busy = o.now)
      (through : busy = o.now + finish deadline
        (o.inventory.entries.map fun e => probe e.definition)) :
      Step probe deadline o (starts probe o.inventory.entries)
        { o.launched probe busy o.inventory.entries with
          polling := some ⟨p.interval, p.due + p.interval, busy⟩ }
  | passes {o : Outlook} {next : Nat} (later : o.now ≤ next)
      (underway : ∀ f ∈ o.underway, next ≤ f.time)
      (polling : ∀ p, o.polling = some p → next ≤ max p.due p.busy) :
      Step probe deadline o [] { o with now := next }

/-- Time passes from one outlook to the other, with all that happens meanwhile. -/
inductive Passes (probe : Probe) (deadline : Nat) (o : Outlook) : List Happening → Outlook → Prop
  | refl : Passes probe deadline o [] o
  | tail {trace last : List Happening} {p q : Outlook} (passes : Passes probe deadline o trace p)
      (step : Step probe deadline p last q) : Passes probe deadline o (trace ++ last) q

/-- Nothing is overdue, and a refresh makes the next one due later. -/
structure Timely (o : Outlook) : Prop where
  underway : ∀ f ∈ o.underway, o.now ≤ f.time
  polling : ∀ p, o.polling = some p → o.now ≤ max p.due p.busy ∧ 0 < p.interval

/-- Nothing is due. -/
structure Ahead (o : Outlook) : Prop where
  underway : ∀ f ∈ o.underway, o.now < f.time
  polling : ∀ p, o.polling = some p → o.now < max p.due p.busy

section Waiting

variable (probe : Probe) (deadline patience : Nat) (o : Outlook)

/-- Someone has an entry probed and waits for the answer, but for no longer than `patience`. -/
inductive Awaits (e : Entry) : List Happening → Outlook → Prop
  | answered {delay : Nat} {status : Status} {meanwhile : List Happening} {p : Outlook}
      (outcome : probe e.definition = .answered delay status) (inTime : delay ≤ patience)
      (passes : Passes probe deadline o meanwhile p) (elapsed : p.now = o.now + delay) :
      Awaits e (.started e.id :: (meanwhile ++ [.answered e.id status]))
        { p with inventory := p.inventory.record e.id status }
  | lost {meanwhile : List Happening} {p : Outlook}
      (late : ∀ delay status, probe e.definition = .answered delay status → patience < delay)
      (passes : Passes probe deadline o meanwhile p) (elapsed : p.now = o.now + patience) :
      Awaits e (.started e.id :: (meanwhile ++ [.lost e.id])) p

/-- Someone has entries probed and waits for all probes, but not beyond the deadline and for no
longer than `patience`. What was due goes first. Probes that are late go on, unless whoever waits
has given up. -/
inductive Refreshes (entries : List Entry) : List Happening → Outlook → Prop
  | nobody (none : entries = []) : Refreshes entries [] o
  | waited {before meanwhile : List Happening} {p q : Outlook} {duration : Nat}
      (some : entries ≠ [])
      (through : duration = finish deadline (entries.map fun e => probe e.definition))
      (inTime : duration ≤ patience) (due : Passes probe deadline o before p) (same : p.now = o.now)
      (passes : Passes probe deadline (p.launched probe 0 entries) meanwhile q)
      (elapsed : q.now = o.now + duration) (ahead : duration < deadline → q.Ahead) :
      Refreshes entries (before ++ starts probe entries ++ meanwhile) q
  | gaveUp {before meanwhile : List Happening} {p q : Outlook} {late : List Flight}
      (some : entries ≠ [])
      (impatient : patience < finish deadline (entries.map fun e => probe e.definition))
      (due : Passes probe deadline o before p) (same : p.now = o.now)
      (passes : Passes probe deadline (p.launched probe 0 entries) meanwhile
        { q with underway := q.underway + late })
      (elapsed : q.now = o.now + patience)
      (unanswered : late = (answers probe o.now 0 entries).filter fun f => q.now ≤ f.time) :
      Refreshes entries
        (before ++ starts probe entries ++ meanwhile ++ late.map fun f => .lost f.id) q

/-- The regular refreshes end. The probes of the one under way are lost that have not answered. -/
inductive Halts : List Happening → Outlook → Prop
  | intro {ended : List Flight} {kept : Multiset Flight} (all : o.underway = ended + kept)
      (ends : ∀ f ∈ ended, o.now < f.bound ∧ o.now < f.time)
      (keeps : ∀ f ∈ kept, f.bound ≤ o.now ∨ f.time ≤ o.now) :
      Halts (ended.map fun f => .lost f.id) { o with underway := kept, polling := none }

end Waiting

variable {κ : Type} {probe : Probe} {deadline patience : Nat} {o p q : Outlook}
  {trace later last : List Happening}

theorem Passes.trans (hfirst : Passes probe deadline o trace p)
    (hlater : Passes probe deadline p later q) : Passes probe deadline o (trace ++ later) q := by
  induction hlater with
  | refl => rwa [List.append_nil]
  | tail _ hstep ih =>
    rw [← List.append_assoc]
    exact ih.tail hstep

theorem Step.now_le (hstep : Step probe deadline o last p) : o.now ≤ p.now := by
  cases hstep with
  | answers => exact Nat.le_refl _
  | polls => exact Nat.le_refl _
  | passes later => exact later

/-- Answers that come later do not stand in the way of what happens. -/
theorem Step.beside (hstep : Step probe deadline o last p) {others : Multiset Flight}
    (hothers : ∀ f ∈ others, p.now ≤ f.time) :
    Step probe deadline { o with underway := o.underway + others } last
      { p with underway := p.underway + others } := by
  cases hstep with
  | @answers f rest underway due =>
    refine .answers ?_ due
    change o.underway + others = f ::ₘ (rest + others)
    rw [underway, Multiset.cons_add]
  | @polls p busy polling due through =>
    have hpolls : Step probe deadline { o with underway := o.underway + others } _ _ :=
      .polls polling due through
    unfold launched at hpolls ⊢
    dsimp only at hpolls ⊢
    rwa [Multiset.add_assoc, Multiset.add_comm others, ← Multiset.add_assoc] at hpolls
  | passes later underway polling =>
    refine .passes later (fun f hf => ?_) polling
    rcases Multiset.mem_add.mp hf with hf | hf
    · exact underway f hf
    · exact hothers f hf

theorem Passes.beside (hpasses : Passes probe deadline o trace p) {others : Multiset Flight}
    (hothers : ∀ f ∈ others, p.now ≤ f.time) :
    Passes probe deadline { o with underway := o.underway + others } trace
      { p with underway := p.underway + others } := by
  induction hpasses with
  | refl => exact .refl
  | tail _ hstep ih =>
    exact (ih fun f hf => hstep.now_le.trans (hothers f hf)).tail (hstep.beside hothers)

section Onward

/-- The moment of an outlook, in the middle of no change. -/
def moment (o : Outlook) (resolution : Resolution) (table : Table κ) : Moment κ where
  resolution := resolution
  table := table
  inventory := o.inventory
  change := none
  underway := o.underway.map Flight.id

/-- What time brings about: only probes start, answer and get lost, so the entries are the same, and
nothing becomes overdue. -/
structure Onward (o : Outlook) (trace : List Happening) (p : Outlook) : Prop where
  course : o.inventory.Fresh → ∀ {κ : Type} (resolution : Resolution) (table : Table κ),
    Moment.Course (o.moment resolution table) trace (p.moment resolution table)
  entries : p.inventory.entries = o.inventory.entries
  nextId : p.inventory.nextId = o.inventory.nextId
  timely : o.Timely → p.Timely

namespace Onward

theorem refl (o : Outlook) : Onward o [] o := ⟨fun _ _ _ _ => .refl, rfl, rfl, id⟩

theorem fresh (h : Onward o trace p) (hfresh : o.inventory.Fresh) : p.inventory.Fresh := by
  unfold Inventory.Fresh
  rw [h.entries, h.nextId]
  exact hfresh

theorem trans (hfirst : Onward o trace p) (hlater : Onward p later q) :
    Onward o (trace ++ later) q where
  course hfresh _ resolution table :=
    (hfirst.course hfresh resolution table).trans
      (hlater.course (hfirst.fresh hfresh) resolution table)
  entries := hlater.entries.trans hfirst.entries
  nextId := hlater.nextId.trans hfirst.nextId
  timely := hlater.timely ∘ hfirst.timely

end Onward

section Probes

variable {resolution : Resolution} {table : Table κ} {i : Inventory}

/-- Probes can start for entries that there are. -/
theorem course_starts {entries : List Entry} {time bound : Nat}
    (hknown : ∀ e ∈ entries, e.id < i.nextId) (underway : Multiset Nat) :
    Moment.Course ⟨resolution, table, i, none, underway⟩ (starts probe entries)
      ⟨resolution, table, i, none,
        underway + ((answers probe time bound entries).map Flight.id : List Nat)⟩ := by
  induction entries generalizing underway with
  | nil =>
    change Moment.Course _ [] ⟨resolution, table, i, none, underway + 0⟩
    rw [Multiset.add_zero]
    exact .refl
  | cons e entries ih =>
    obtain ⟨he, hknown⟩ := List.forall_mem_cons.mp hknown
    have hstarted : Moment.Course (⟨resolution, table, i, none, underway⟩ : Moment κ)
        [.started e.id] ⟨resolution, table, i, none, e.id ::ₘ underway⟩ :=
      (Moment.Step.starts he).course
    have hlost := (hstarted.tail (.loses rfl)).trans (ih hknown underway)
    unfold starts answers at hlost ih ⊢
    rw [List.flatMap_cons, List.filterMap_cons]
    rcases probe e.definition with ⟨delay, status⟩ | time | _
    · have hlater := hstarted.trans (ih hknown (e.id ::ₘ underway))
      rwa [Multiset.cons_add, ← Multiset.add_cons] at hlater
    · exact hlost
    · exact hlost

/-- Probes that are under way can get lost. -/
theorem course_lost (late : List Flight) (underway : Multiset Nat) :
    Moment.Course ⟨resolution, table, i, none, underway + (late.map Flight.id : List Nat)⟩
      (late.map fun f => .lost f.id) ⟨resolution, table, i, none, underway⟩ := by
  induction late with
  | nil =>
    change Moment.Course ⟨resolution, table, i, none, underway + 0⟩ [] _
    rw [Multiset.add_zero]
    exact .refl
  | cons f late ih =>
    rw [List.map_cons, ← Multiset.cons_coe, Multiset.add_cons]
    exact (Moment.Step.loses rfl).course.trans ih

end Probes

theorem onward_launched {entries : List Entry} (hknown : ∀ e ∈ entries, e ∈ o.inventory.entries)
    (probe : Probe) (bound : Nat) :
    Onward o (starts probe entries) (o.launched probe bound entries) where
  course hfresh _ resolution table := by
    have hgiven : ∀ e ∈ entries, e.id < o.inventory.nextId := fun e he => hfresh e (hknown e he)
    unfold moment launched
    rw [Multiset.map_add]
    exact course_starts hgiven (o.underway.map Flight.id)
  entries := rfl
  nextId := rfl
  timely htimely := by
    refine ⟨fun f hf => ?_, htimely.polling⟩
    rcases Multiset.mem_add.mp hf with hf | hf
    · exact htimely.underway f hf
    · obtain ⟨e, -, hanswer⟩ := List.mem_filterMap.mp (Multiset.mem_coe.mp hf)
      split at hanswer <;> cases hanswer
      exact Nat.le_add_right ..

/-- The probes of some answers get lost. -/
theorem onward_lost (q : Outlook) (late : List Flight) :
    Onward { q with underway := q.underway + late } (late.map fun f => .lost f.id) q where
  course _ _ resolution table := by
    unfold moment
    rw [Multiset.map_add]
    exact course_lost late (q.underway.map Flight.id)
  entries := rfl
  nextId := rfl
  timely htimely :=
    ⟨fun f hf => htimely.underway f (Multiset.mem_add.mpr (.inl hf)), htimely.polling⟩

theorem Step.onward (hstep : Step probe deadline o last p) : Onward o last p := by
  cases hstep with
  | @answers f rest underway due =>
    refine ⟨fun _ _ _ _ => (Moment.Step.answers ?_).course, rfl, rfl, fun htimely => ?_⟩
    · change o.underway.map Flight.id = f.id ::ₘ rest.map Flight.id
      rw [underway, Multiset.map_cons]
    · have hrest := htimely.underway
      rw [underway] at hrest
      exact ⟨fun g hg => hrest g (Multiset.mem_cons_of_mem hg), htimely.polling⟩
  | @polls p busy polling due through =>
    have hlaunched := onward_launched (fun e (he : e ∈ o.inventory.entries) => he) probe busy
    refine ⟨hlaunched.course, rfl, rfl, fun htimely => ⟨(hlaunched.timely htimely).underway, ?_⟩⟩
    rintro next ⟨⟩
    refine ⟨Nat.le_trans ?_ (Nat.le_max_right ..), (htimely.polling p polling).2⟩
    rw [through]
    exact Nat.le_add_right ..
  | passes later underway polling =>
    refine ⟨fun _ _ _ _ => .refl, rfl, rfl, fun htimely => ⟨underway, fun p hp => ?_⟩⟩
    exact ⟨polling p hp, (htimely.polling p hp).2⟩

theorem Passes.onward (hpasses : Passes probe deadline o trace p) : Onward o trace p := by
  induction hpasses with
  | refl => exact .refl o
  | tail _ hstep ih => exact ih.trans hstep.onward

/-- What happens while a probe is under way that does not answer yet. -/
theorem Passes.course_beside (hpasses : Passes probe deadline o trace p)
    (hfresh : o.inventory.Fresh) (resolution : Resolution) (table : Table κ) (id : Nat) :
    Moment.Course ⟨resolution, table, o.inventory, none, id ::ₘ o.underway.map Flight.id⟩ trace
      ⟨resolution, table, p.inventory, none, id ::ₘ p.underway.map Flight.id⟩ := by
  -- Some answer that comes after all of this stands for the one that is waited for.
  let other : Flight := ⟨id, p.now, .unknown, 0⟩
  have hother : ∀ f ∈ ({other} : Multiset Flight), p.now ≤ f.time := fun f hf =>
    (congrArg Flight.time (Multiset.mem_singleton.mp hf)).ge
  have hcourse := (hpasses.beside hother).onward.course hfresh resolution table
  unfold moment at hcourse
  simpa only [Multiset.map_add, Multiset.map_singleton, Multiset.add_comm _ {other.id},
    Multiset.singleton_add] using hcourse

theorem Awaits.onward {e : Entry} (hawaits : Awaits probe deadline patience o e trace p)
    (he : e ∈ o.inventory.entries) : Onward o trace p := by
  cases hawaits with
  | answered outcome inTime passes elapsed =>
    have honward := passes.onward
    refine ⟨fun hfresh _ resolution table => ?_, honward.entries, honward.nextId, fun htimely => ?_⟩
    · have hbeside := passes.course_beside hfresh resolution table e.id
      exact (Moment.Step.starts (hfresh e he)).course.trans (hbeside.tail (.answers rfl))
    · exact ⟨(honward.timely htimely).underway, (honward.timely htimely).polling⟩
  | lost late passes elapsed =>
    have honward := passes.onward
    refine ⟨fun hfresh _ resolution table => ?_, honward.entries, honward.nextId, honward.timely⟩
    have hbeside := passes.course_beside hfresh resolution table e.id
    exact (Moment.Step.starts (hfresh e he)).course.trans (hbeside.tail (.loses rfl))

theorem Refreshes.onward {entries : List Entry}
    (hrefreshes : Refreshes probe deadline patience o entries trace p)
    (hknown : ∀ e ∈ entries, e ∈ o.inventory.entries) : Onward o trace p := by
  have hlaunched {before : List Happening} {q : Outlook} (hdue : Onward o before q) :
      Onward o (before ++ starts probe entries) (q.launched probe 0 entries) :=
    hdue.trans (onward_launched (hdue.entries ▸ hknown) probe 0)
  cases hrefreshes with
  | nobody => exact .refl o
  | waited _ _ _ due _ passes => exact (hlaunched due.onward).trans passes.onward
  | gaveUp _ _ due _ passes =>
    exact ((hlaunched due.onward).trans passes.onward).trans (onward_lost p _)

theorem Halts.onward (hhalts : Halts o trace p) : Onward o trace p := by
  obtain @⟨ended, kept, all, ends, keeps⟩ := hhalts
  have hlost := onward_lost { o with underway := kept } ended
  rw [Multiset.add_comm] at hlost
  dsimp only at hlost
  rw [← all] at hlost
  refine ⟨hlost.course, rfl, rfl, fun htimely => ⟨(hlost.timely htimely).underway, ?_⟩⟩
  exact fun _ hnone => absurd hnone (Option.some_ne_none _).symm

end Onward

end Outlook

end MetastoreFederation.Federation
