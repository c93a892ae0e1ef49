import Mathlib.Data.List.Nodup
import MetastoreFederation.Proofs.Federation.Operations

/-!
Where the statuses come from. An identity is given to one entry only, and a probe answers for the
identity for which it was started. So the status of an entry is what the last of its own probes has
found, and nothing is known of an entry before one of them answers, however long probes take and
whatever becomes of their entries.
-/

set_option autoImplicit false
set_option relaxedAutoImplicit false

namespace MetastoreFederation.Federation

open Metastore Routing Health
open Administration (Plan Request)

variable {κ : Type} {create : Factory κ}

/-- What the last probe of an entry found that has answered. -/
def lastAnswer (id : Nat) (trace : List Happening) : Status :=
  (trace.filterMap (Happening.answer? id)).getLastD .unknown

/-- The entries that there have been: those at first, and those that came with changes. -/
def entriesEver (first : List Entry) (trace : List Happening) : List Entry :=
  first ++ trace.filterMap Happening.newcomer?

namespace Moment

variable {first p q : Moment κ} {h : Happening} {trace : List Happening}

section Answers

theorem status_step (hstep : Step p h q) (id : Nat) :
    q.inventory.statuses.status id = (h.answer? id).getD (p.inventory.statuses.status id) := by
  cases hstep with
  | begins free plans => exact congrArg (fun b => b.status id) plans.statuses_meanwhile
  | @answers answering status rest underway =>
    change (p.inventory.statuses.record answering status).status id = _
    rw [StatusBoard.status_record]
    by_cases hid : id = answering
    · simp [Happening.answer?, hid]
    · simp [Happening.answer?, hid, Ne.symm hid]
  | _ => rfl

/-- The status of an entry is the last answer to its probes, or what it was before there was one. -/
theorem status_course (hcourse : Course p trace q) (id : Nat) :
    q.inventory.statuses.status id =
      (trace.filterMap (Happening.answer? id)).getLastD (p.inventory.statuses.status id) := by
  induction hcourse with
  | refl => rfl
  | @tail trace q r h hcourse hstep ih =>
    rw [status_step hstep, List.filterMap_append, ih]
    cases hanswer : h.answer? id with
    | none => simp [hanswer]
    | some status => simp [hanswer]

/-- An answer changes what is known of its own entry only. -/
theorem view_answered {id : Nat} {status : Status} (hstep : Step p (.answered id status) q)
    {e : Entry} (he : e.id ≠ id) : q.inventory.view e = p.inventory.view e := by
  cases hstep
  change (p.inventory.statuses.record id status).view e = p.inventory.statuses.view e
  simp [StatusBoard.view, he]

end Answers

section Probes

/-- A probe that ends was under way, and one that starts is from then on. -/
theorem count_step (hstep : Step p h q) (id : Nat) :
    q.underway.count id + [h].countP (Happening.ends id) =
      p.underway.count id + [h].count (.started id) := by
  cases hstep with
  | @starts probed known =>
    by_cases hid : probed = id
    · simp [Happening.ends, hid]
    · simp [Happening.ends, hid, Multiset.count_cons_of_ne (Ne.symm hid)]
  | @answers probed status rest underway =>
    by_cases hid : probed = id
    · simp [Happening.ends, underway, hid]
    · simp [Happening.ends, underway, hid, Multiset.count_cons_of_ne (Ne.symm hid)]
  | @loses probed rest underway =>
    by_cases hid : probed = id
    · simp [Happening.ends, underway, hid]
    · simp [Happening.ends, underway, hid, Multiset.count_cons_of_ne (Ne.symm hid)]
  | _ => rfl

theorem count_course (hcourse : Course p trace q) (id : Nat) :
    q.underway.count id + trace.countP (Happening.ends id) =
      p.underway.count id + trace.count (.started id) := by
  induction hcourse with
  | refl => rfl
  | tail hcourse hstep ih =>
    have hlast := count_step hstep id
    rw [List.countP_append, List.count_append]
    omega

/-- Probes are for entries only that there have been. -/
theorem probed_step (hstep : Step p h q) (hunderway : ∀ id ∈ p.underway, id < p.inventory.nextId) :
    (∀ id ∈ q.underway, id < q.inventory.nextId) ∧
      ∀ id, h.probed? = some id → id < p.inventory.nextId := by
  cases hstep with
  | begins free plans =>
    exact ⟨fun id hid => (hunderway id hid).trans_le plans.nextId_meanwhile, nofun⟩
  | starts known =>
    refine ⟨fun id hid => ?_, fun id hid => Option.some.inj hid ▸ known⟩
    rcases Multiset.mem_cons.mp hid with rfl | hid
    · exact known
    · exact hunderway id hid
  | answers underway =>
    rw [underway] at hunderway
    refine ⟨fun id hid => hunderway id (Multiset.mem_cons_of_mem hid), fun id hid => ?_⟩
    exact hunderway id (Option.some.inj hid ▸ Multiset.mem_cons_self _ _)
  | loses underway =>
    rw [underway] at hunderway
    refine ⟨fun id hid => hunderway id (Multiset.mem_cons_of_mem hid), fun id hid => ?_⟩
    exact hunderway id (Option.some.inj hid ▸ Multiset.mem_cons_self _ _)
  | _ => exact ⟨hunderway, nofun⟩

theorem probed_course (hcourse : Course p trace q)
    (hunderway : ∀ id ∈ p.underway, id < p.inventory.nextId) :
    (∀ id ∈ q.underway, id < q.inventory.nextId) ∧
      ∀ h ∈ trace, ∀ id, h.probed? = some id → id < q.inventory.nextId := by
  induction hcourse with
  | refl => exact ⟨hunderway, nofun⟩
  | tail hcourse hstep ih =>
    obtain ⟨hq, htrace⟩ := ih
    obtain ⟨hr, hlast⟩ := probed_step hstep hq
    have hlater := nextId_step hstep
    refine ⟨hr, fun h hh id hid => ?_⟩
    rcases List.mem_append.mp hh with hh | hh
    · exact (htrace h hh id hid).trans_le hlater
    · obtain rfl := List.mem_singleton.mp hh
      exact (hlast id hid).trans_le hlater

end Probes

section Entries

/-- An entry that comes with a change has an identity that was not given before. -/
theorem id_newcomer (hstep : Step p h q) {e : Entry} (he : h.newcomer? = some e) :
    e.id = p.inventory.nextId := by
  cases hstep with
  | begins free plans => exact (plans.id_newcomer he).1
  | _ => cases he

/-- All entries that are shown, bound, or in the plan of a change are of a list in which no identity
is there twice. -/
structure OnRecord (all : List Entry) (p : Moment κ) : Prop where
  shown : p.inventory.entries ⊆ all
  bound : p.table.bindings.map Binding.entry ⊆ all
  planned : ∀ plan, p.change = some plan →
    plan.kept.entries ⊆ all ∧ plan.made.entries ⊆ all ∧ plan.newcomer?.toList ⊆ all
  ids : (all.map Entry.id).Nodup
  given : ∀ e ∈ all, e.id < p.inventory.nextId

variable {all : List Entry}

/-- A table binds no other entries than before, but for the one that comes with the event. -/
theorem bound_of_notify {t u : Table κ} {plan : Plan} (htakes : t.notify create plan.event = .ok u)
    {e : Entry} (he : e ∈ u.bindings.map Binding.entry) :
    e ∈ t.bindings.map Binding.entry ∨ plan.newcomer? = some e := by
  obtain ⟨b, hb, rfl⟩ := List.mem_map.mp he
  unfold Administration.Plan.newcomer?
  cases hevent : plan.event with
  | register e =>
    rw [hevent] at htakes
    rcases Table.of_notify_register htakes with ⟨c, -, -, rfl⟩ | ⟨-, c, hbind, rfl⟩
    · exact .inl (List.mem_map_of_mem hb)
    · rcases List.mem_append.mp hb with hb | hb
      · exact .inl (List.mem_map_of_mem hb)
      · obtain rfl := List.mem_singleton.mp hb
        exact .inr (congrArg some (Registry.entry_of_bind hbind).1.symm)
  | update old e =>
    rw [hevent] at htakes
    obtain ⟨-, c, -, -, hbind, rfl⟩ := Table.of_notify_update htakes
    obtain ⟨d, hd, hreplaced⟩ := List.mem_map.mp hb
    split_ifs at hreplaced
    · subst hreplaced
      exact .inr (congrArg some (Registry.entry_of_bind hbind).1.symm)
    · subst hreplaced
      exact .inl (List.mem_map_of_mem hd)
  | unregister name =>
    rw [hevent] at htakes
    obtain ⟨-, -, -, rfl⟩ := Table.of_notify_unregister htakes
    exact .inl (List.mem_map_of_mem (List.mem_of_mem_filter hb))

theorem onRecord_begins {request : Request} {plan : Plan} (hrecord : OnRecord all p)
    (hplan : p.administration.Plans request plan) :
    OnRecord (all ++ plan.newcomer?.toList)
      { p with inventory := plan.meanwhile, change := some plan } := by
  have hkept : plan.kept.entries ⊆ all ++ plan.newcomer?.toList := by
    rw [hplan.kept_entries]
    exact List.Subset.trans hrecord.shown (List.subset_append_left _ _)
  have hmade : plan.made.entries ⊆ all ++ plan.newcomer?.toList := by
    intro e he
    rcases hplan.mem_made he with he | he
    · exact List.mem_append_left _ (hrecord.shown he)
    · exact List.mem_append_right _ (he ▸ List.mem_singleton.mpr rfl)
  refine ⟨?_, List.Subset.trans hrecord.bound (List.subset_append_left _ _), ?_, ?_, ?_⟩
  · change plan.meanwhile.entries ⊆ _
    rcases hplan.meanwhile_cases with h | h <;> rw [h]
    · exact hkept
    · exact hmade
  · rintro _ ⟨⟩
    exact ⟨hkept, hmade, List.subset_append_right _ _⟩
  · rw [List.map_append, List.nodup_append]
    refine ⟨hrecord.ids, ?_, fun id hid id' hid' hsame => ?_⟩
    · cases plan.newcomer? with
      | none => exact .nil
      | some e => exact List.nodup_singleton _
    · obtain ⟨e, he, rfl⟩ := List.mem_map.mp hid
      obtain ⟨e', he', rfl⟩ := List.mem_map.mp hid'
      have hnew := (hplan.id_newcomer (Option.mem_toList.mp he')).1
      have hold : e.id < p.inventory.nextId := hrecord.given e he
      exact Nat.lt_irrefl _ (hold.trans_eq (hnew.symm.trans hsame.symm))
  · intro e he
    rcases List.mem_append.mp he with he | he
    · exact (hrecord.given e he).trans_le hplan.nextId_meanwhile
    · change e.id < plan.meanwhile.nextId
      rw [(hplan.id_newcomer (Option.mem_toList.mp he)).2]
      exact Nat.lt_succ_self _

theorem onRecord_ended {t : Table κ} {entries : List Entry}
    (hrecord : OnRecord all p) (hentries : entries ⊆ all)
    (hbound : t.bindings.map Binding.entry ⊆ all) :
    OnRecord all
      { p with
        table := t
        inventory := { p.inventory with entries }
        change := none } where
  shown := hentries
  bound := hbound
  planned _ hchange := absurd hchange.symm (Option.some_ne_none _)
  ids := hrecord.ids
  given := hrecord.given

theorem onRecord_step (hstep : Step p h q) (hrecord : OnRecord all p) :
    OnRecord (all ++ h.newcomer?.toList) q := by
  have hnobody {r : Moment κ} (hr : OnRecord all r) : OnRecord (all ++ []) r := by
    rwa [List.append_nil]
  cases hstep with
  | begins free plans => exact onRecord_begins hrecord plans
  | @uses t same =>
    have hbindings : t.bindings = p.table.bindings := congrArg (fun r => r.snapshot.bindings) same
    have hbound := hrecord.bound
    rw [← hbindings] at hbound
    exact hnobody ⟨hrecord.shown, hbound, hrecord.planned, hrecord.ids, hrecord.given⟩
  | accepted change takes =>
    obtain ⟨-, hmade, hnewcomer⟩ := hrecord.planned _ change
    refine hnobody (onRecord_ended hrecord hmade fun e he => ?_)
    rcases bound_of_notify takes he with he | he
    · exact hrecord.bound he
    · exact hnewcomer (Option.mem_toList.mpr he)
  | refused change refuses =>
    obtain ⟨hkept, -⟩ := hrecord.planned _ change
    exact hnobody (onRecord_ended hrecord hkept hrecord.bound)
  | starts known =>
    exact hnobody ⟨hrecord.shown, hrecord.bound, hrecord.planned, hrecord.ids, hrecord.given⟩
  | answers underway =>
    exact hnobody ⟨hrecord.shown, hrecord.bound, hrecord.planned, hrecord.ids, hrecord.given⟩
  | loses underway =>
    exact hnobody ⟨hrecord.shown, hrecord.bound, hrecord.planned, hrecord.ids, hrecord.given⟩

theorem onRecord_course (hcourse : Course p trace q) (hrecord : OnRecord all p) :
    OnRecord (entriesEver all trace) q := by
  induction hcourse with
  | refl =>
    unfold entriesEver
    rwa [List.filterMap_nil, List.append_nil]
  | @tail trace q r h hcourse hstep ih =>
    have hlast : entriesEver all (trace ++ [h]) = entriesEver all trace ++ h.newcomer?.toList := by
      unfold entriesEver
      rw [List.filterMap_append, List.append_assoc]
      cases hnew : h.newcomer? <;> simp [hnew]
    rw [hlast]
    exact onRecord_step hstep ih

end Entries

/-- What is sure of the statuses wherever a course may lead. -/
structure Attested (first : Moment κ) (trace : List Happening) (p : Moment κ) : Prop where
  /-- The status of an entry is unknown before one of its own probes answers, and from then on it is
  the last of these answers. -/
  latest : ∀ e ∈ p.inventory.entries, p.inventory.status e = lastAnswer e.id trace
  /-- Where a probe answers, there are more that started for its entry than ended so far. -/
  asked : ∀ id status before after, trace = before ++ .answered id status :: after →
    before.countP (Happening.ends id) < before.count (.started id)
  /-- An entry that was not there at first came with a change, and no probe of it is older. -/
  created : ∀ e ∈ p.inventory.entries, e ∉ first.inventory.entries →
    ∃ before after, trace = before ++ .begun (some e) :: after ∧
      ∀ h ∈ before, h.probed? ≠ some e.id
  /-- The answer of a probe changes nothing for any other entry, whatever has become of its own. -/
  spared : ∀ old ∈ entriesEver first.inventory.entries trace, ∀ status q,
    Step p (.answered old.id status) q →
      (∀ e ∈ q.inventory.entries, e ≠ old → q.inventory.view e = p.inventory.view e) ∧
      ∀ b ∈ q.table.bindings, b.entry ≠ old → (b ∈ q.available ↔ b ∈ p.available)
  available : ∀ b, b ∈ p.available ↔
    b ∈ p.table.bindings ∧ lastAnswer b.entry.id trace ≠ .unavailable
  /-- Between two changes just the entries of the inventory are bound. -/
  bound : first.inventory.Orderly → p.change = none →
    (p.table.bindings.map Binding.entry).Perm p.inventory.entries

theorem mem_available_iff {b : Binding κ} :
    b ∈ p.available ↔
      b ∈ p.table.bindings ∧ p.inventory.statuses.status b.entry.id ≠ .unavailable := by
  unfold available Table.available
  rw [List.mem_filter]
  unfold Binding.isAvailable
  rw [bne_iff_ne]

/-- Two entries that there have been are one if they have the same identity. -/
theorem OnRecord.eq_of_id_eq {all : List Entry} (hrecord : OnRecord all p) {e old : Entry}
    (he : e ∈ all) (hold : old ∈ all) (hid : e.id = old.id) : e = old :=
  List.inj_on_of_nodup_map hrecord.ids he hold hid

theorem spared_of_onRecord {all : List Entry} (hrecord : OnRecord all p) {old : Entry}
    (hold : old ∈ all) {status : Status} (hstep : Step p (.answered old.id status) q) :
    (∀ e ∈ q.inventory.entries, e ≠ old → q.inventory.view e = p.inventory.view e) ∧
      ∀ b ∈ q.table.bindings, b.entry ≠ old → (b ∈ q.available ↔ b ∈ p.available) := by
  have hrecord' : OnRecord (all ++ []) q := onRecord_step hstep hrecord
  rw [List.append_nil] at hrecord'
  have hother : ∀ e ∈ all, e ≠ old → e.id ≠ old.id := fun e he hne hid =>
    hne (hrecord.eq_of_id_eq he hold hid)
  refine ⟨fun e he hne => view_answered hstep (hother e (hrecord'.shown he) hne), ?_⟩
  intro b hb hne
  have hid := hother b.entry (hrecord'.bound (List.mem_map_of_mem hb)) hne
  have hstatus := status_step hstep b.entry.id
  have hanswer : Happening.answer? b.entry.id (.answered old.id status) = none :=
    if_neg (Ne.symm hid)
  rw [hanswer, Option.getD_none] at hstatus
  have htable : q.table = p.table := by
    cases hstep
    rfl
  rw [mem_available_iff, mem_available_iff, hstatus, htable]

/-- An entry that came with a change has no older probes. -/
theorem created_of_course (hcourse : Course first trace p)
    (hunderway : ∀ id ∈ first.underway, id < first.inventory.nextId) {e : Entry}
    (he : e ∈ entriesEver first.inventory.entries trace) (hnew : e ∉ first.inventory.entries) :
    ∃ before after, trace = before ++ .begun (some e) :: after ∧
      ∀ h ∈ before, h.probed? ≠ some e.id := by
  obtain ⟨h, hh, hcame⟩ := List.mem_filterMap.mp ((List.mem_append.mp he).resolve_left hnew)
  have hbegun : h = .begun (some e) := by
    cases h <;> cases hcame
    rfl
  subst hbegun
  obtain ⟨before, after, rfl⟩ := List.append_of_mem hh
  refine ⟨before, after, rfl, fun h hh hprobed => ?_⟩
  -- The identity was given with the change, and all probes so far are for those given before.
  rw [List.append_cons] at hcourse
  obtain ⟨q, hcourse, -⟩ := hcourse.split
  obtain ⟨r, hbefore, hstep⟩ := course_append_singleton_iff.mp hcourse
  have hgiven := (probed_course hbefore hunderway).2 h hh e.id hprobed
  exact Nat.lt_irrefl _ (hgiven.trans_eq (id_newcomer hstep rfl).symm)

theorem attested_course (hcourse : Course first trace p)
    (hrecord : OnRecord first.inventory.entries first) (hquiet : first.underway = 0)
    (hunknown : ∀ id, first.inventory.statuses.status id = .unknown)
    (hlinked : first.inventory.Orderly → first.Linked) : Attested first trace p := by
  have hrecorded := onRecord_course hcourse hrecord
  have hstatus : ∀ id, p.inventory.statuses.status id = lastAnswer id trace := by
    intro id
    rw [status_course hcourse, hunknown]
    rfl
  refine ⟨fun e _ => hstatus e.id, ?_, ?_, ?_, ?_, ?_⟩
  · rintro id status before after rfl
    rw [List.append_cons] at hcourse
    obtain ⟨q, hcourse, -⟩ := hcourse.split
    have hbefore := count_course hcourse id
    rw [hquiet, Multiset.count_zero, List.countP_append, List.count_append] at hbefore
    have hends : [Happening.answered id status].countP (Happening.ends id) = 1 := by
      simp [Happening.ends]
    have hstarted : [Happening.answered id status].count (.started id) = 0 := rfl
    omega
  · intro e he hnew
    refine created_of_course hcourse ?_ (hrecorded.shown he) hnew
    rw [hquiet]
    exact fun id hid => absurd hid (Multiset.notMem_zero id)
  · intro old hold status q hstep
    exact spared_of_onRecord hrecorded hold hstep
  · intro b
    rw [mem_available_iff, hstatus]
  · intro horderly hfree
    exact ((linked_course hcourse (hlinked horderly)).settled hfree).2

end Moment

section Start

variable {settings : Settings} {definitions : List Definition} {f : Federation κ}

theorem bound_of_registerAll {r s : Registry κ} {entries : List Entry}
    (hall : Registry.registerAll create r entries = .ok s) :
    s.snapshot.bindings.map Binding.entry ⊆ r.snapshot.bindings.map Binding.entry ++ entries := by
  induction entries generalizing r with
  | nil =>
    cases hall
    exact List.subset_append_left _ _
  | cons e entries ih =>
    obtain ⟨next, hregister, hrest⟩ := Registry.registerAll_cons_eq_ok_iff.mp hall
    have hnext : next.snapshot.bindings.map Binding.entry ⊆
        r.snapshot.bindings.map Binding.entry ++ [e] := by
      rcases Registry.register_eq_ok_iff.mp hregister with ⟨-, -, -, rfl⟩ | ⟨-, -, b, hbind, rfl⟩
      · exact List.subset_append_left _ _
      · change (r.snapshot.bindings ++ [b]).map Binding.entry ⊆ _
        rw [List.map_append, List.map_singleton, (Registry.entry_of_bind hbind).1]
        exact List.Subset.refl _
    intro other hother
    rcases List.mem_append.mp (ih hrest hother) with hin | hin
    · rcases List.mem_append.mp (hnext hin) with hin | hin
      · exact List.mem_append_left _ hin
      · exact List.mem_append_right _ (List.mem_singleton.mp hin ▸ List.mem_cons_self)
    · exact List.mem_append_right _ (List.mem_cons_of_mem _ hin)

theorem onRecord_start (hstart : start create settings (.ofDefinitions definitions) = .ok f) :
    Moment.OnRecord f.moment.inventory.entries f.moment := by
  obtain ⟨-, r, hall, rfl⟩ := start_eq_ok_iff.mp hstart
  have hids : ((Inventory.ofDefinitions definitions).entries.map Entry.id).Nodup := by
    rw [((Inventory.perm_ofDefinitions definitions).map Entry.id).nodup_iff,
      Inventory.map_id_numbered]
    exact List.nodup_range'
  constructor
  case shown => exact List.Subset.refl _
  case bound => exact bound_of_registerAll hall
  case planned => exact fun _ hchange => absurd hchange.symm (Option.some_ne_none _)
  case ids => exact hids
  case given => exact Inventory.fresh_ofDefinitions definitions

theorem attested_of_course (hstart : start create settings (.ofDefinitions definitions) = .ok f)
    {trace : List Happening} {p : Moment κ} (hcourse : f.moment.Course trace p) :
    Moment.Attested f.moment trace p := by
  have hwatch : f.watch = .ofInventory (.ofDefinitions definitions) := by
    obtain ⟨-, r, -, rfl⟩ := start_eq_ok_iff.mp hstart
    rfl
  have hquiet : f.moment.underway = 0 := by
    unfold moment
    rw [hwatch]
    rfl
  have hunknown : ∀ id, f.moment.inventory.statuses.status id = .unknown := by
    intro id
    unfold moment inventory
    rw [hwatch]
    rfl
  refine Moment.attested_course hcourse (onRecord_start hstart) hquiet hunknown fun horderly => ?_
  have hinventory : f.inventory = .ofDefinitions definitions :=
    congrArg Watch.inventory hwatch
  exact (linked_start (hinventory ▸ horderly) hstart).moment

theorem ready_start (hstart : start create settings (.ofDefinitions definitions) = .ok f) :
    f.Ready := by
  obtain ⟨-, r, -, rfl⟩ := start_eq_ok_iff.mp hstart
  exact ⟨Inventory.fresh_ofDefinitions definitions, timely_ofInventory _⟩

/-- However the requests to the administration and the probes of the metastores come in between one
another, a status is that of one definition only. What is asked of a federation, one operation after
another, is one of these courses: on it the probes start that the operations and the regular
refreshes ask for, and each answers when it is due and with the status that its surroundings give.
-/
theorem attested_of_start (hstart : start create settings (.ofDefinitions definitions) = .ok f) :
    (∀ (trace : List Happening) (p : Moment κ), f.moment.Course trace p →
      Moment.Attested f.moment trace p) ∧
    ∀ operations : List (Operation κ), ∃ trace,
      f.moment.Course trace (operations.foldl operate f).moment ∧ f.Unfolds operations trace :=
  ⟨fun _ _ hcourse => attested_of_course hstart hcourse, course_operations (ready_start hstart)⟩

def waggle : Definition := { name := "waggle", addresses := "b" }

/-- The metastore that takes the place of another one. -/
def wasp : Definition := { name := "wasp", addresses := "b" }

/-- A metastore is replaced while its probe is under way, which then answers after the first probe
of the new one. -/
def lateProbe : List Happening :=
  [.started 1, .begun (some ⟨2, wasp⟩), .ended, .started 2, .answered 2 .available,
    .answered 1 .unavailable]

theorem course_lateProbe {f : Federation Unit} {t : Table Unit}
    (hwatch : f.watch = .ofInventory (.ofDefinitions twoMetastores.definitions))
    (hnotify : f.table.notify singleAddress (.update "waggle" ⟨2, wasp⟩) = .ok t) :
    ∃ p, f.moment.Course lateProbe p ∧ p.table = t ∧
      p.inventory.entries.map (fun e => (e.name, p.inventory.status e)) =
        [("primary", .unknown), ("wasp", .available)] := by
  obtain ⟨settings, table, watch⟩ := f
  subst hwatch
  let resolution := settings.resolution
  let i := Inventory.ofDefinitions twoMetastores.definitions
  let made := i.advance.replace "waggle" ⟨2, wasp⟩
  let plan : Plan := ⟨.update "waggle" ⟨2, wasp⟩, .update "wasp" ⟨1, waggle⟩, i.advance, made⟩
  have hplan : Administration.Plans ⟨resolution, i, [table]⟩ (.update "waggle" wasp) plan := by
    have hfound : i.find? "waggle" = some ⟨1, waggle⟩ := rfl
    refine .update hfound rfl ?_
    change checkCompatible resolution _ wasp = .ok ()
    cases resolution <;> rfl
  have hstarted : Moment.Step ⟨resolution, table, i, none, 0⟩ (.started 1)
      ⟨resolution, table, i, none, {1}⟩ := .starts (Nat.lt_succ_self 1)
  have hbegun : Moment.Step ⟨resolution, table, i, none, {1}⟩ (.begun plan.newcomer?)
      ⟨resolution, table, made, some plan, {1}⟩ := .begins rfl hplan
  have hended : Moment.Step ⟨resolution, table, made, some plan, {1}⟩ .ended
      ⟨resolution, t, made, none, {1}⟩ := @Moment.Step.accepted _ _ plan _ _ rfl hnotify
  have hagain : Moment.Step ⟨resolution, t, made, none, {1}⟩ (.started 2)
      ⟨resolution, t, made, none, 2 ::ₘ {1}⟩ := .starts (Nat.lt_succ_self 2)
  have hanswered : Moment.Step ⟨resolution, t, made, none, 2 ::ₘ {1}⟩ (.answered 2 .available)
      ⟨resolution, t, made.record 2 .available, none, {1}⟩ := .answers rfl
  have hlate : Moment.Step ⟨resolution, t, made.record 2 .available, none, {1}⟩
      (.answered 1 .unavailable)
      ⟨resolution, t, (made.record 2 .available).record 1 .unavailable, none, 0⟩ := .answers rfl
  have hcourse := hstarted.course.tail hbegun |>.tail hended |>.tail hagain |>.tail hanswered
  exact ⟨_, hcourse.tail hlate, rfl, rfl⟩

/-- Refreshes are over soon. -/
def hasty : Settings := { statusDeadline := .ofMillis 5 }

/-- One metastore answers late, the one in its place answers at once. -/
def slowAndQuick : Surroundings Unit where
  create := singleAddress
  clients _ := ⟨fun _ => .silent, .silent⟩
  probe d :=
    if d.name = "waggle" then .answered 9 .unavailable
    else if d.name = "wasp" then .answered 3 .available
    else .silent
  patience := 6

/-- The same replacement, with a probe that outlives the refresh that started it. -/
def lateRefresh : List (Operation Unit) :=
  [.getAll slowAndQuick, .change singleAddress (.update "waggle" wasp), .get slowAndQuick "wasp",
    .wait slowAndQuick 9]

theorem operate_lateRefresh {table t : Table Unit}
    (hnotify : table.notify singleAddress (.update "waggle" ⟨2, wasp⟩) = .ok t) :
    let last := lateRefresh.foldl operate
      ⟨hasty, table, .ofInventory (.ofDefinitions twoMetastores.definitions)⟩
    last.table = t ∧ last.statuses = ⟨[(1, .unavailable), (2, .available)]⟩ := by
  let primary : Entry := ⟨0, { name := "primary", role := .primary, addresses := "a" }⟩
  let i : Inventory := ⟨[primary, ⟨1, waggle⟩], 2, ⟨[]⟩⟩
  let made (records : List (Nat × Status)) : Inventory := ⟨[primary, ⟨2, wasp⟩], 3, ⟨records⟩⟩
  let asked : List Definition := [primary.definition, waggle]
  let late : List Flight := [⟨1, 9, .unavailable, 0⟩]
  have hfirst : Inventory.ofDefinitions twoMetastores.definitions = i := rfl
  have hrefreshed : operate ⟨hasty, table, .ofInventory i⟩ (.getAll slowAndQuick) =
      ⟨hasty, table, ⟨5, i, late, none, asked⟩⟩ := by
    let w : Watch := .ofInventory i
    have hnone : w.land 0 = w := by simp [Watch.land, w, Watch.ofInventory]
    have hwaits : Watch.land ⟨0, i, late, none, asked⟩ 4 = ⟨0, i, late, none, asked⟩ := by
      simp [Watch.land, late]
    have hrefreshes : (w.refreshAll slowAndQuick.probe 5 6 w.inventory.entries).2 =
        ⟨5, i, late, none, asked⟩ := by
      change { ((w.land 0).launch slowAndQuick.probe i.entries 0 0 none).land 4 with now := 5 } = _
      rw [hnone]
      exact congrArg (fun w : Watch => { w with now := 5 }) hwaits
    have hoperate (w : Watch) : operate ⟨hasty, table, w⟩ (.getAll slowAndQuick) =
        ⟨hasty, table, (w.refreshAll slowAndQuick.probe hasty.statusDeadline.millis 6
          w.inventory.entries).2⟩ := rfl
    have hdeadline : hasty.statusDeadline.millis = 5 := rfl
    rw [hoperate, hdeadline]
    exact congrArg (Federation.mk hasty table) hrefreshes
  have hupdated : operate ⟨hasty, table, ⟨5, i, late, none, asked⟩⟩
      (.change singleAddress (.update "waggle" wasp)) =
        ⟨hasty, t, ⟨5, made [], late, none, asked⟩⟩ := by
    have htold : tell (Table.notify singleAddress) (.update "waggle" ⟨2, wasp⟩)
        (.update "wasp" ⟨1, waggle⟩) [table] =
          ⟨[t], notices (.update "waggle" ⟨2, wasp⟩) 1, .ok ()⟩ := by
      unfold tell Announcement.make
      rw [hnotify]
      rfl
    change changed _ (Administration.commit (Table.notify singleAddress)
      ⟨.prefixed, i.advance, [table]⟩ (.update "waggle" ⟨2, wasp⟩) (.update "wasp" ⟨1, waggle⟩)
      fun s => s.replace "waggle" ⟨2, wasp⟩) = _
    unfold Administration.commit
    rw [htold]
    rfl
  have hanswered : operate ⟨hasty, t, ⟨5, made [], late, none, asked⟩⟩
      (.get slowAndQuick "wasp") =
        ⟨hasty, t, ⟨8, made [(2, .available)], late, none, asked ++ [wasp]⟩⟩ := by
    have hwaits : Watch.land ⟨5, made [], late, none, asked ++ [wasp]⟩ 7 =
        ⟨5, made [], late, none, asked ++ [wasp]⟩ := by
      simp [Watch.land, late]
    exact congrArg (fun w : Watch => Federation.mk hasty t
      { w with now := 8, inventory := w.inventory.record 2 .available }) hwaits
  have hlate : operate
      ⟨hasty, t, ⟨8, made [(2, .available)], late, none, asked ++ [wasp]⟩⟩
      (.wait slowAndQuick 9) =
        ⟨hasty, t, ⟨17, made [(1, .unavailable), (2, .available)], [], none, asked ++ [wasp]⟩⟩ := by
    have hlands : Watch.land ⟨8, made [(2, .available)], late, none, asked ++ [wasp]⟩ 16 =
        ⟨8, (made [(2, .available)]).record 1 .unavailable, [], none, asked ++ [wasp]⟩ := by
      simp [Watch.land, late]
    exact congrArg (fun w : Watch => Federation.mk hasty t { w with now := 17 }) hlands
  unfold lateRefresh
  rw [hfirst, List.foldl_cons, hrefreshed, List.foldl_cons, hupdated, List.foldl_cons, hanswered,
    List.foldl_cons, hlate]
  exact ⟨rfl, rfl⟩

theorem attested_lateProbe :
    ∃ (f : Federation Unit) (p : Moment Unit),
      start singleAddress hasty (.ofDefinitions twoMetastores.definitions) = .ok f ∧
      f.moment.Course lateProbe p ∧ Moment.Attested f.moment lateProbe p ∧
      p.table.bindings.map Binding.name = ["primary", "wasp"] ∧
      p.inventory.entries.map (fun e => (e.name, p.inventory.status e)) =
        [("primary", .unknown), ("wasp", .available)] ∧
      ∃ trace, f.moment.Course trace (lateRefresh.foldl operate f).moment ∧
        f.Unfolds lateRefresh trace ∧
        (lateRefresh.foldl operate f).table = p.table ∧
        lastAnswer 1 trace = .unavailable ∧ lastAnswer 2 trace = .available := by
  have hcomputed : (start singleAddress hasty
      (.ofDefinitions twoMetastores.definitions)).toOption.bind (fun f =>
        (f.table.notify singleAddress (.update "waggle" ⟨2, wasp⟩)).toOption.map fun t =>
          t.bindings.map Binding.name) = some ["primary", "wasp"] := by decide
  cases hstart : start singleAddress hasty (.ofDefinitions twoMetastores.definitions) with
  | error cause =>
    rw [hstart] at hcomputed
    cases hcomputed
  | ok f =>
    rw [hstart] at hcomputed
    obtain ⟨t, hnotify, hnames⟩ := Option.map_eq_some_iff.mp hcomputed
    cases hnotified : f.table.notify singleAddress (.update "waggle" ⟨2, wasp⟩) with
    | error cause =>
      rw [hnotified] at hnotify
      cases hnotify
    | ok u =>
      rw [hnotified] at hnotify
      obtain rfl := Option.some.inj hnotify
      obtain ⟨-, r, -, rfl⟩ := start_eq_ok_iff.mp hstart
      obtain ⟨hattested, hoperations⟩ := attested_of_start hstart
      obtain ⟨p, hcourse, rfl, hstatuses⟩ := course_lateProbe rfl hnotified
      obtain ⟨trace, hlater, hunfolds⟩ := hoperations lateRefresh
      obtain ⟨htable, hrecords⟩ := operate_lateRefresh hnotified
      have hlast (id : Nat) : lastAnswer id trace =
          StatusBoard.status ⟨[(1, .unavailable), (2, .available)]⟩ id :=
        hrecords ▸ (Moment.status_course hlater id).symm
      exact ⟨_, p, rfl, hcourse, hattested _ p hcourse, hnames, hstatuses, trace, hlater, hunfolds,
        htable, hlast 1, hlast 2⟩

end Start

end MetastoreFederation.Federation
