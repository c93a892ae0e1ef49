import Mathlib.Order.Bounds.Basic
import MetastoreFederation.Federation
import MetastoreFederation.Proofs.Health.Execution

/-!
The refresh of many statuses under the watch. Other probes may be under way and the regular
refreshes go on, but what they write about an entry is what its own probe answers, and they write it
no earlier. So the refresh comes to what it should here as well, and the definitions that are told
after it are told with its statuses.
-/

set_option autoImplicit false
set_option relaxedAutoImplicit false

namespace MetastoreFederation.Health

open Metastore Request

section Finish

variable {deadline t : Nat} {outcomes : List (Outcome Status)}

theorem finish_le_iff : finish deadline outcomes ≤ t ↔
    ∀ o ∈ outcomes, min deadline (o.time?.getD deadline) ≤ t := by
  unfold finish
  induction outcomes with
  | nil => exact iff_of_true (Nat.zero_le t) nofun
  | cons o outcomes ih =>
    rw [List.map_cons, List.foldr_cons, Nat.max_le, ih, List.forall_mem_cons]

/-- The probes are through when the last of them has ended, or at the deadline. -/
theorem isLeast_finish (outcome : Entry → Outcome Status) (deadline : Nat) (entries : List Entry) :
    IsLeast {t | (∀ e ∈ entries, ∃ time ≤ t, (outcome e).time? = some time) ∨ t = deadline}
      (finish deadline (entries.map outcome)) := by
  refine ⟨?_, ?_⟩
  · rcases Nat.lt_or_eq_of_le (finish_le deadline (entries.map outcome)) with hlt | heq
    · refine .inl fun e he => ?_
      have hmin := finish_le_iff.mp (Nat.le_refl (finish deadline (entries.map outcome)))
        (outcome e) (List.mem_map_of_mem he)
      cases htime : (outcome e).time? with
      | none =>
        rw [htime, Option.getD_none, Nat.min_self] at hmin
        exact absurd hlt (Nat.not_lt.mpr hmin)
      | some time =>
        rw [htime, Option.getD_some] at hmin
        exact ⟨time, by omega, rfl⟩
    · exact .inr heq
  · rintro t (hended | rfl)
    · rw [finish_le_iff, List.forall_mem_map]
      intro e he
      obtain ⟨time, hle, htime⟩ := hended e he
      rw [htime, Option.getD_some]
      exact (Nat.min_le_right ..).trans hle
    · exact finish_le t _

/-- A probe that answers before the deadline is waited for. -/
theorem le_finish_of_answered {time : Nat} {status : Status}
    (hanswered : .answered time status ∈ outcomes) (hlt : time < deadline) :
    time ≤ finish deadline outcomes := by
  have hmin := finish_le_iff.mp (Nat.le_refl (finish deadline outcomes)) _ hanswered
  exact (Nat.min_eq_right (Nat.le_of_lt hlt)).symm.trans_le hmin

end Finish

namespace Watch

variable {probe : Probe} {deadline began latest time bound : Nat} {limit : Option Nat} {e : Entry}
  {previous : Status} {w : Watch}

section Landing

/-- What is recorded for an identity is kept, or it is the status of a flight for it. -/
theorem status_landed (flights : List Flight) (i : Inventory) (id : Nat) :
    let landed := flights.foldl (fun i f => i.record f.id f.status) i
    ((∀ f ∈ flights, f.id ≠ id) ∧ landed.statuses.status id = i.statuses.status id) ∨
      ∃ f ∈ flights, f.id = id ∧ landed.statuses.status id = f.status := by
  induction flights generalizing i with
  | nil => exact .inl ⟨nofun, rfl⟩
  | cons g flights ih =>
    rcases ih (i.record g.id g.status) with ⟨hother, hkept⟩ | ⟨f, hf, hid, hstatus⟩
    · have hrecord := StatusBoard.status_record i.statuses g.id id g.status
      by_cases hid : id = g.id
      · rw [if_pos hid] at hrecord
        exact .inr ⟨g, List.mem_cons_self, hid.symm, hkept.trans hrecord⟩
      · rw [if_neg hid] at hrecord
        exact .inl ⟨List.forall_mem_cons.mpr ⟨Ne.symm hid, hother⟩, hkept.trans hrecord⟩
    · exact .inr ⟨f, List.mem_cons_of_mem _ hf, hid, hstatus⟩

/-- The status of an entry stays until a flight for it lands, and then is that of such a flight. -/
theorem status_land (w : Watch) (time : Nat) (e : Entry) :
    ((∀ f ∈ w.flights, f.time ≤ time → f.id ≠ e.id) ∧
        (w.land time).inventory.status e = w.inventory.status e) ∨
      ∃ f ∈ w.flights, f.time ≤ time ∧ f.id = e.id ∧
        (w.land time).inventory.status e = f.status := by
  have hmem : ∀ f, (f ∈ (w.flights.filter fun f => f.time ≤ time).mergeSort
      fun a b => a.time ≤ b.time) ↔ f ∈ w.flights ∧ f.time ≤ time := by
    intro f
    rw [List.mem_mergeSort, List.mem_filter, decide_eq_true_iff]
  rcases status_landed _ w.inventory e.id with ⟨hother, hkept⟩ | ⟨f, hf, hid, hstatus⟩
  · exact .inl ⟨fun f hf hle => hother f ((hmem f).mpr ⟨hf, hle⟩), hkept⟩
  · obtain ⟨hf, hle⟩ := (hmem f).mp hf
    exact .inr ⟨f, hf, hle, hid, hstatus⟩

theorem entries_land (w : Watch) (time : Nat) :
    (w.land time).inventory.entries = w.inventory.entries := by
  have hlanded : ∀ (flights : List Flight) (i : Inventory),
      (flights.foldl (fun i f => i.record f.id f.status) i).entries = i.entries := by
    intro flights
    induction flights with
    | nil => exact fun i => rfl
    | cons f flights ih => exact fun i => ih (i.record f.id f.status)
  exact hlanded _ w.inventory

theorem mem_flights_land {f : Flight} :
    f ∈ (w.land time).flights ↔ f ∈ w.flights ∧ time < f.time := by
  change f ∈ w.flights.filter _ ↔ _
  rw [List.mem_filter, decide_eq_true_iff]

end Landing

section Foresight

/-- What is sure of an entry in a watch since a time: all that is under way or is going to start
writes what the probe of the entry answers, and no earlier than if the probe had started at that
time. So its status is the previous one unless there was an answer, up to the time of the latest. -/
structure Foreseen (probe : Probe) (e : Entry) (began latest : Nat) (previous : Status)
    (w : Watch) : Prop where
  known : ∀ f ∈ w.inventory.entries, f.id = e.id → f.definition = e.definition
  polls : ∀ p, w.polling = some p → began ≤ p.next
  flights : ∀ f ∈ w.flights, f.id = e.id →
    ∃ delay, probe e.definition = .answered delay f.status ∧ began + delay ≤ f.time
  status : w.inventory.status e = previous ∨ ∃ delay,
    probe e.definition = .answered delay (w.inventory.status e) ∧ began + delay ≤ latest

/-- The answer of the entry's probe is there already, or it comes in time. -/
def Promised (e : Entry) (time : Nat) (status : Status) (w : Watch) : Prop :=
  w.inventory.status e = status ∨ ∃ f ∈ w.flights, f.id = e.id ∧ f.time ≤ time

theorem flight?_eq_some {o : Outcome Status} {f : Flight}
    (h : flight? time bound limit e o = some f) :
    ∃ delay status, o = .answered delay status ∧ f = ⟨e.id, time + delay, status, bound⟩ := by
  unfold flight? at h
  split at h
  · next delay status =>
    split_ifs at h
    exact ⟨delay, status, rfl, (Option.some.inj h).symm⟩
  · cases h

theorem Promised.launch {due : Nat} {status : Status} {entries : List Entry}
    (h : Promised e due status w) :
    Promised e due status (w.launch probe entries time bound limit) :=
  h.imp_right fun ⟨f, hf, hid, hdue⟩ => ⟨f, List.mem_append_left _ hf, hid, hdue⟩

namespace Foreseen

/-- Only answers of the probe land. -/
theorem land (h : Foreseen probe e began latest previous w) (hle : time ≤ latest) :
    Foreseen probe e began latest previous (w.land time) where
  known := by
    rw [entries_land]
    exact h.known
  polls := h.polls
  flights f hf := h.flights f (mem_flights_land.mp hf).1
  status := by
    rcases status_land w time e with ⟨-, hkept⟩ | ⟨f, hf, hdue, hid, hstatus⟩
    · rw [hkept]
      exact h.status
    · obtain ⟨delay, hanswers, hbegan⟩ := h.flights f hf hid
      rw [hstatus]
      exact .inr ⟨delay, hanswers, hbegan.trans (hdue.trans hle)⟩

/-- A probe that starts later answers later. -/
theorem launch {entries : List Entry} (h : Foreseen probe e began latest previous w)
    (hentries : ∀ f ∈ entries, f.id = e.id → f.definition = e.definition) (hbegan : began ≤ time) :
    Foreseen probe e began latest previous (w.launch probe entries time bound limit) where
  known := h.known
  polls := h.polls
  flights f hf hid := by
    rcases List.mem_append.mp hf with hf | hf
    · exact h.flights f hf hid
    · obtain ⟨g, hg, hflight⟩ := List.mem_filterMap.mp hf
      obtain ⟨delay, status, hanswers, rfl⟩ := flight?_eq_some hflight
      rw [hentries g hg hid] at hanswers
      exact ⟨delay, hanswers, Nat.add_le_add_right hbegan delay⟩
  status := h.status

/-- A background refresh starts no probe too early. -/
theorem starts {p : Polling} (h : Foreseen probe e began latest previous w)
    (hpolling : w.polling = some p) (hle : p.next ≤ latest) (bound : Nat) :
    Foreseen probe e began latest previous
      ((w.land p.next).launch probe (w.land p.next).inventory.entries p.next bound none) :=
  (h.land hle).launch (h.land hle).known (h.polls p hpolling)

theorem refreshAt {p : Polling} (h : Foreseen probe e began latest previous w)
    (hpolling : w.polling = some p) (hle : p.next ≤ latest) :
    Foreseen probe e began latest previous (w.refreshAt probe deadline p p.next) := by
  have hlanded := (h.starts hpolling hle (p.next + finish deadline
    ((w.land p.next).inventory.entries.map fun e => probe e.definition))).land hle
  refine ⟨hlanded.known, ?_, hlanded.flights, hlanded.status⟩
  rintro q ⟨⟩
  exact (h.polls p hpolling).trans ((Nat.le_add_right ..).trans (Nat.le_max_right ..))

theorem promised_land {delay due : Nat} {status : Status}
    (h : Foreseen probe e began latest previous w)
    (hanswers : probe e.definition = .answered delay status) (hpromised : Promised e due status w)
    (time : Nat) : Promised e due status (w.land time) := by
  rcases status_land w time e with ⟨hnone, hkept⟩ | ⟨f, hf, -, hid, hstatus⟩
  · rcases hpromised with hstatus | ⟨f, hf, hid, hdue⟩
    · exact .inl (hkept.trans hstatus)
    · have hlater : time < f.time := Nat.lt_of_not_le fun hle => hnone f hf hle hid
      exact .inr ⟨f, mem_flights_land.mpr ⟨hf, hlater⟩, hid, hdue⟩
  · obtain ⟨delay', hanswers', -⟩ := h.flights f hf hid
    rw [hanswers] at hanswers'
    cases hanswers'
    exact .inl hstatus

theorem promised_refreshAt {delay due : Nat} {status : Status} {p : Polling}
    (h : Foreseen probe e began latest previous w)
    (hanswers : probe e.definition = .answered delay status) (hpolling : w.polling = some p)
    (hle : p.next ≤ latest) (hpromised : Promised e due status w) :
    Promised e due status (w.refreshAt probe deadline p p.next) :=
  (h.starts hpolling hle _).promised_land hanswers (h.promised_land hanswers hpromised _).launch _

end Foreseen

end Foresight

section Running

variable {P : Watch → Prop}

/-- What the background refreshes that are due keep is true when the rest of what is due lands. -/
theorem runBounded_eq_land (n : Nat) (hkeeps : ∀ w p, P w → w.polling = some p → p.next ≤ time →
    P (w.refreshAt probe deadline p p.next)) (h : P w) :
    ∃ v, P v ∧ w.runBounded probe deadline time n = v.land time := by
  induction n generalizing w with
  | zero => exact ⟨w, h, rfl⟩
  | succ n ih =>
    unfold runBounded
    cases hpolling : w.polling with
    | none => exact ⟨w, h, rfl⟩
    | some p =>
      by_cases hdue : p.next ≤ time
      · simp only [if_pos hdue]
        exact ih (hkeeps w p h hpolling hdue)
      · simp only [if_neg hdue]
        exact ⟨w, h, rfl⟩

theorem runUntil_eq_land (probe : Probe) (deadline : Nat)
    (hkeeps : ∀ w p, P w → w.polling = some p → p.next ≤ time →
      P (w.refreshAt probe deadline p p.next)) (h : P w) :
    ∃ v, P v ∧ w.runUntil probe deadline time = v.land time :=
  runBounded_eq_land _ hkeeps h

theorem now_runUntil (probe : Probe) (deadline time : Nat) (w : Watch) :
    (w.runUntil probe deadline time).now = w.now := by
  have hkeeps : ∀ (v : Watch) p, v.now = w.now → v.polling = some p → p.next ≤ time →
      (v.refreshAt probe deadline p p.next).now = w.now := fun _ _ h _ _ => h
  obtain ⟨v, hv, hrun⟩ := runUntil_eq_land probe deadline hkeeps rfl
  rw [hrun]
  exact hv

theorem Foreseen.runUntil (h : Foreseen probe e began latest previous w) (deadline : Nat)
    (hle : time ≤ latest) :
    Foreseen probe e began latest previous (w.runUntil probe deadline time) := by
  obtain ⟨v, hv, hrun⟩ := runUntil_eq_land probe deadline
    (fun _ _ h hpolling hdue => Foreseen.refreshAt h hpolling (hdue.trans hle)) h
  rw [hrun]
  exact hv.land hle

/-- A promised answer that is due by the end is there then. -/
theorem Foreseen.status_runUntil {delay due : Nat} {status : Status}
    (h : Foreseen probe e began latest previous w)
    (hanswers : probe e.definition = .answered delay status) (hpromised : Promised e due status w)
    (hdue : due ≤ time) (hle : time ≤ latest) :
    (w.runUntil probe deadline time).inventory.status e = status := by
  obtain ⟨v, ⟨hforeseen, hpromised⟩, hrun⟩ := runUntil_eq_land probe deadline
    (P := fun v => Foreseen probe e began latest previous v ∧ Promised e due status v)
    (fun _ _ h hpolling hnext => ⟨h.1.refreshAt hpolling (hnext.trans hle),
      h.1.promised_refreshAt hanswers hpolling (hnext.trans hle) h.2⟩) ⟨h, hpromised⟩
  rw [hrun]
  rcases hforeseen.promised_land hanswers hpromised time with hstatus | ⟨f, hf, -, hfdue⟩
  · exact hstatus
  · have hlater := (mem_flights_land.mp hf).2
    omega

end Running

section Refreshing

variable {entries : List Entry} {patience : Nat}

/-- No probe of the entries is under way, and no background refresh is late. -/
structure Quiet (w : Watch) (entries : List Entry) : Prop where
  flights : ∀ f ∈ w.flights, f.id ∉ entries.map Entry.id
  polls : ∀ p, w.polling = some p → w.now ≤ p.next

theorem Quiet.foreseen (h : w.Quiet entries) (he : e ∈ entries)
    (hknown : ∀ f ∈ w.inventory.entries, f.id = e.id → f.definition = e.definition) (latest : Nat) :
    Foreseen probe e w.now latest (w.inventory.status e) w where
  known := hknown
  polls := h.polls
  flights f hf hid := absurd (hid ▸ List.mem_map_of_mem he) (h.flights f hf)
  status := .inl rfl

theorem promised_launch {delay : Nat} {status : Status} (he : e ∈ entries)
    (hanswers : probe e.definition = .answered delay status) :
    Promised e (time + delay) status (w.launch probe entries time bound none) := by
  refine .inr ⟨⟨e.id, time + delay, status, bound⟩, ?_, rfl, Nat.le_refl _⟩
  refine List.mem_append_right _ (List.mem_filterMap.mpr ⟨e, he, ?_⟩)
  rw [hanswers]
  rfl

/-- Whoever waits long enough is told after how long the last probe has ended, and how many probes
have answered in time. -/
theorem fst_refreshAll
    (hpatience : finish deadline (entries.map fun e => probe e.definition) ≤ patience) :
    (w.refreshAll probe deadline patience entries).1 =
      some (.ofOutcomes deadline (entries.map fun e => probe e.definition),
        finish deadline (entries.map fun e => probe e.definition)) := by
  unfold refreshAll
  cases entries with
  | nil => rfl
  | cons e entries =>
    dsimp only
    rw [if_neg (by simp), if_neg (Nat.not_lt.mpr hpatience)]

/-- What a refresh may find of an entry whose probe it has started, up to a time within the
deadline. -/
structure Settled (probe : Probe) (deadline : Nat) (e : Entry) (w after : Watch) : Prop where
  answered : ∀ delay status, probe e.definition = .answered delay status → delay < deadline →
    after.inventory.status e = status
  otherwise : after.inventory.status e = w.inventory.status e ∨
    ∃ delay, probe e.definition = .answered delay (after.inventory.status e) ∧ delay ≤ deadline

theorem Foreseen.settled {u : Watch}
    (h : Foreseen probe e w.now (w.now + deadline) (w.inventory.status e) u)
    (hpromised : ∀ delay status, probe e.definition = .answered delay status →
      Promised e (w.now + delay) status u)
    (time : Nat) (hle : time ≤ w.now + deadline)
    (hdue : ∀ delay status, probe e.definition = .answered delay status → delay < deadline →
      w.now + delay ≤ time) :
    Settled probe deadline e w (u.runUntil probe deadline time) where
  answered delay status hanswers hlt :=
    h.status_runUntil hanswers (hpromised delay status hanswers)
      (hdue delay status hanswers hlt) hle
  otherwise := by
    refine (h.runUntil deadline hle).status.imp_right ?_
    rintro ⟨delay, hanswers, hbegan⟩
    exact ⟨delay, hanswers, Nat.le_of_add_le_add_left hbegan⟩

/-- What is done for whoever waits long enough: what is due happens, the probes start, and then time
passes. -/
theorem snd_refreshAll (hne : entries ≠ [])
    (hpatience : finish deadline (entries.map fun e => probe e.definition) ≤ patience) :
    (w.refreshAll probe deadline patience entries).2 =
      let u := (w.runUntil probe deadline w.now).launch probe entries w.now 0 none
      let duration := finish deadline (entries.map fun e => probe e.definition)
      if duration < deadline then u.join probe deadline duration
      else u.sleep probe deadline duration := by
  have hempty : ¬ entries.isEmpty = true := by
    rw [List.isEmpty_iff]
    exact hne
  unfold refreshAll
  dsimp only
  rw [if_neg hempty, if_neg (Nat.not_lt.mpr hpatience), now_runUntil]

/-- A refresh that is waited for settles each of its entries. -/
theorem settled_refreshAll (hquiet : w.Quiet entries) (he : e ∈ entries)
    (hentries : ∀ f ∈ entries, f.id = e.id → f.definition = e.definition)
    (hknown : ∀ f ∈ w.inventory.entries, f.id = e.id → f.definition = e.definition)
    (hpatience : finish deadline (entries.map fun e => probe e.definition) ≤ patience) :
    Settled probe deadline e w (w.refreshAll probe deadline patience entries).2 := by
  rw [snd_refreshAll (List.ne_nil_of_mem he) hpatience]
  let u := (w.runUntil probe deadline w.now).launch probe entries w.now 0 none
  let duration := finish deadline (entries.map fun e => probe e.definition)
  change Settled probe deadline e w (if duration < deadline then u.join probe deadline duration
    else u.sleep probe deadline duration)
  have hwithin : duration ≤ deadline := finish_le deadline _
  have hended : ∀ delay status, probe e.definition = .answered delay status → delay < deadline →
      delay ≤ duration := fun _ _ hanswers =>
    le_finish_of_answered (List.mem_map.mpr ⟨e, he, hanswers⟩)
  have hnow : u.now = w.now := now_runUntil probe deadline w.now w
  have hquieted : Foreseen probe e w.now (w.now + deadline) (w.inventory.status e) w :=
    hquiet.foreseen he hknown _
  have hforeseen : Foreseen probe e w.now (w.now + deadline) (w.inventory.status e) u :=
    (hquieted.runUntil deadline (Nat.le_add_right ..)).launch hentries (Nat.le_refl _)
  have hpromised : ∀ delay status, probe e.definition = .answered delay status →
      Promised e (w.now + delay) status u := fun _ _ => promised_launch he
  split_ifs with hearly
  · have hsettled := hforeseen.settled hpromised (w.now + duration) (by omega)
      fun delay status hanswers hlt => Nat.add_le_add_left (hended delay status hanswers hlt) _
    unfold join
    rw [hnow]
    exact ⟨hsettled.answered, hsettled.otherwise⟩
  · have hfull : duration = deadline := Nat.le_antisymm hwithin (Nat.le_of_not_lt hearly)
    unfold sleep
    split_ifs with hzero
    · -- Without any time to wait, no probe can have answered before the deadline.
      refine ⟨fun _ _ _ hlt => by omega, hforeseen.status.imp_right ?_⟩
      rintro ⟨delay, hanswers, hbegan⟩
      exact ⟨delay, hanswers, Nat.le_of_add_le_add_left hbegan⟩
    · have hsettled := hforeseen.settled hpromised (w.now + duration - 1) (by omega)
        fun delay _ _ hlt => by omega
      rw [hnow]
      exact ⟨hsettled.answered, hsettled.otherwise⟩

/-- A refresh of distinct entries that is waited for comes to what it should. -/
theorem refreshed_refreshAll (hids : (entries.map Entry.id).Nodup) (hquiet : w.Quiet entries)
    (hknown : ∀ f ∈ w.inventory.entries, ∀ e ∈ entries, f.id = e.id → f = e)
    (hpatience : finish deadline (entries.map fun e => probe e.definition) ≤ patience) :
    Refreshed (fun e => probe e.definition) deadline entries w.inventory.statuses
      (finish deadline (entries.map fun e => probe e.definition))
      (.ofOutcomes deadline (entries.map fun e => probe e.definition))
      (w.refreshAll probe deadline patience entries).2.inventory.statuses := by
  have hsettled : ∀ e ∈ entries,
      Settled probe deadline e w (w.refreshAll probe deadline patience entries).2 := by
    intro e he
    refine settled_refreshAll hquiet he (fun f hf hid => ?_) (fun f hf hid => ?_) hpatience
    · rw [List.inj_on_of_nodup_map hids hf he hid]
    · rw [hknown f hf e he hid]
  refine ⟨isLeast_finish _ deadline entries, fun e he => (hsettled e he).answered,
    fun e he hlate => ?_, List.length_map _, fun _ => List.countP_map⟩
  rcases (hsettled e he).otherwise with hkept | ⟨delay, hanswers, hle⟩
  · exact hkept
  · exact absurd hle (Nat.not_le.mpr (hlate delay _ hanswers))

/-- The same is returned by an execution in which each probe has a task of its own. -/
theorem returns_refreshAll (hids : (entries.map Entry.id).Nodup) (probe : Probe) (deadline : Nat)
    (before : StatusBoard) :
    ∃ after, Returns (fun e => probe e.definition) deadline entries before
      (finish deadline (entries.map fun e => probe e.definition))
      (.ofOutcomes deadline (entries.map fun e => probe e.definition)) after := by
  obtain ⟨elapsed, after, h⟩ := exists_returns hids (fun e => probe e.definition) deadline before
  have helapsed := ((dependable hids _ deadline before).refreshed _ _ _ h).returns.unique
    (isLeast_finish _ deadline entries)
  have hreport : Report.ofOutcomes deadline (entries.map fun e => probe e.definition) =
      ⟨entries.length, entries.countP fun e => inTime deadline (probe e.definition)⟩ := by
    unfold Report.ofOutcomes
    rw [List.length_map, List.countP_map]
    rfl
  rw [hreport, ← helapsed]
  exact ⟨after, h⟩

end Refreshing

end Watch

/-- The refresh of distinct entries none of whose probes is under way. In whatever order the probes
report, it returns in time and comes to what it should; so it does under the watch, for whoever
waits long enough; and all definitions are told in the order of the inventory, with the statuses
after it. -/
theorem refresh_bounded {entries : List Entry} (hids : (entries.map Entry.id).Nodup) :
    (∀ (outcome : Entry → Outcome Status) (deadline : Nat) (before : StatusBoard),
      Dependable outcome deadline entries before) ∧
    (∀ (probe : Probe) (deadline patience : Nat) (w : Watch), w.Quiet entries →
      (∀ f ∈ w.inventory.entries, ∀ e ∈ entries, f.id = e.id → f = e) →
      finish deadline (entries.map fun e => probe e.definition) ≤ patience →
      ∃ report elapsed,
        (w.refreshAll probe deadline patience entries).1 = some (report, elapsed) ∧
        Refreshed (fun e => probe e.definition) deadline entries w.inventory.statuses elapsed report
          (w.refreshAll probe deadline patience entries).2.inventory.statuses ∧
        ∃ after, Returns (fun e => probe e.definition) deadline entries w.inventory.statuses
          elapsed report after) ∧
    ∀ (κ : Type) (s : Surroundings κ) (f : Federation κ), f.inventory.entries = entries →
      f.watch.Quiet entries →
      finish f.deadline (entries.map fun e => s.probe e.definition) ≤ s.patience →
      (f.getAll s).answer = some (entries.map (f.getAll s).after.statuses.view) ∧
      ∃ report, Refreshed (fun e => s.probe e.definition) f.deadline entries f.statuses
        (f.getAll s).elapsed report (f.getAll s).after.statuses := by
  refine ⟨dependable hids, fun probe deadline patience w hquiet hknown hpatience => ?_, ?_⟩
  · exact ⟨_, _, Watch.fst_refreshAll hpatience,
      Watch.refreshed_refreshAll hids hquiet hknown hpatience,
      Watch.returns_refreshAll hids probe deadline w.inventory.statuses⟩
  · rintro κ s f rfl hquiet hpatience
    have hknown : ∀ d ∈ f.inventory.entries, ∀ e ∈ f.inventory.entries, d.id = e.id → d = e :=
      fun d hd e he hid => List.inj_on_of_nodup_map hids hd he hid
    have hrefreshed := Watch.refreshed_refreshAll hids hquiet hknown hpatience
    have hanswer := Watch.fst_refreshAll (w := f.watch) hpatience
    unfold Federation.getAll
    change (Option.map _ (Watch.refreshAll ..).1 = _) ∧ ∃ report, Refreshed _ _ _ _
      ((Option.map Prod.snd (Watch.refreshAll ..).1).getD s.patience) report _
    rw [hanswer]
    exact ⟨rfl, _, hrefreshed⟩

/-- Four entries, whose probes answer in time, die, never answer, and answer late. -/
def fourEntries : List Entry :=
  [⟨1, { name := "ant", addresses := "" }⟩, ⟨2, { name := "bee", addresses := "" }⟩,
    ⟨3, { name := "cat", addresses := "" }⟩, ⟨4, { name := "dog", addresses := "" }⟩]

def fourProbes : Probe := fun d =>
  if d.name = "ant" then .answered 3 .available
  else if d.name = "bee" then .lost 2
  else if d.name = "cat" then .silent
  else .answered 50 .unavailable

/-- The statuses before, a flight for a former entry, and a background refresh that starts
meanwhile. -/
def fourWatched : Watch :=
  ⟨100, ⟨fourEntries, 5, ⟨[(2, .available), (4, .available)]⟩⟩, [⟨0, 104, .unavailable, 0⟩],
    some ⟨300, 107, 0⟩, []⟩

def fourSurrounded : Surroundings Unit :=
  ⟨fun _ => .ok (), fun _ => ⟨fun _ => .silent, .silent⟩, fourProbes, 60⟩

def fourFederated : Federation Unit :=
  ⟨{ statusDeadline := .ofMillis 10 }, .empty .prefixed, fourWatched⟩

theorem refresh_bounded_four :
    (∀ elapsed report after, Returns (fun e => fourProbes e.definition) 10 fourEntries .empty
      elapsed report after → report = ⟨4, 1⟩) ∧
    (fourWatched.refreshAll fourProbes 10 60 fourEntries).1 = some (⟨4, 1⟩, 10) ∧
    (fourFederated.getAll fourSurrounded).elapsed = 10 ∧
    (fourFederated.getAll fourSurrounded).answer.map (fun views => views.map View.status) =
      some [.available, .available, .unknown, .available] := by
  have hids : (fourEntries.map Entry.id).Nodup := by decide
  have hquiet : fourWatched.Quiet fourEntries := ⟨by decide, by decide⟩
  have hknown : ∀ f ∈ fourWatched.inventory.entries, ∀ e ∈ fourEntries, f.id = e.id → f = e := by
    decide
  have hnever : ∀ e ∈ fourEntries, (fourProbes e.definition).time? ≠ some 10 := by decide
  have htie : ∀ e ∈ fourEntries, ∀ status, fourProbes e.definition ≠ .answered 10 status :=
    fun e he status h => hnever e he (congrArg Outcome.time? h)
  have hleast := isLeast_finish (fun e => fourProbes e.definition) 10 fourEntries
  obtain ⟨hdependable, hrefresh, hall⟩ := refresh_bounded hids
  refine ⟨fun elapsed report after h => ?_, ?_, ?_⟩
  · have hrefreshed := (hdependable _ _ _).refreshed elapsed report after h
    have htotal := hrefreshed.total
    have hcompleted := hrefreshed.completed htie
    cases report
    cases htotal
    cases hcompleted
    rfl
  · obtain ⟨report, elapsed, hanswer, hrefreshed, -⟩ :=
      hrefresh fourProbes 10 60 fourWatched hquiet hknown (by decide)
    have htotal := hrefreshed.total
    have hcompleted := hrefreshed.completed htie
    obtain rfl := hrefreshed.returns.unique hleast
    rw [hanswer]
    cases report
    cases htotal
    cases hcompleted
    rfl
  · obtain ⟨hanswer, report, hrefreshed⟩ :=
      hall Unit fourSurrounded fourFederated rfl hquiet (by decide)
    have hant := hrefreshed.answered ⟨1, _⟩ (.head _) 3 .available rfl (by decide)
    have hbee := hrefreshed.kept ⟨2, _⟩ (.tail _ (.head _)) (by rintro _ _ ⟨⟩)
    have hcat := hrefreshed.kept ⟨3, _⟩ (.tail _ (.tail _ (.head _))) (by rintro _ _ ⟨⟩)
    have hdog := hrefreshed.kept ⟨4, _⟩ (.tail _ (.tail _ (.tail _ (.head _))))
      (by rintro _ _ ⟨⟩; decide)
    refine ⟨hrefreshed.returns.unique hleast, ?_⟩
    rw [hanswer]
    simp only [fourEntries, Option.map_some, List.map_cons, List.map_nil, StatusBoard.view]
    rw [hant, hbee, hcat, hdog]
    rfl

end MetastoreFederation.Health
