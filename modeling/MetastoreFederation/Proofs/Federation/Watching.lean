import MetastoreFederation.Proofs.Federation.Passage
import MetastoreFederation.Proofs.Health.Refresh

/-!
What a watch does as time passes: it takes up every answer when it is due, and starts every refresh
when it is due. Whoever waits lets time pass in this way and no other.
-/

set_option autoImplicit false
set_option relaxedAutoImplicit false

namespace MetastoreFederation.Federation.Outlook

open Metastore Request Health

variable {probe : Probe} {deadline patience now time bound : Nat} {w : Watch}

/-- The outlook of a watch at its own time. -/
abbrev current (w : Watch) : Outlook := ofWatch w w.now

section Flights

theorem filterMap_flight? (probe : Probe) (time bound : Nat) (entries : List Entry) :
    (entries.filterMap fun e => Watch.flight? time bound none e (probe e.definition)) =
      answers probe time bound entries := by
  unfold answers Watch.flight?
  refine List.filterMap_congr fun e _ => ?_
  rcases probe e.definition with ⟨delay, status⟩ | lost | _ <;> rfl

/-- Who gives up at a limit starts the probes only that answer before it. -/
theorem filterMap_flight?_some (probe : Probe) (time bound limit : Nat) (entries : List Entry) :
    (entries.filterMap fun e => Watch.flight? time bound (some limit) e (probe e.definition)) =
      (answers probe time bound entries).filter fun f => !decide (time + limit ≤ f.time) := by
  unfold answers Watch.flight?
  rw [List.filter_filterMap]
  refine List.filterMap_congr fun e _ => ?_
  rcases probe e.definition with ⟨delay, status⟩ | lost | _
  · simp [Option.filter]
  · rfl
  · rfl

theorem ofWatch_launch (w : Watch) (entries : List Entry) :
    ofWatch (w.launch probe entries now bound none) now =
      (ofWatch w now).launched probe bound entries := by
  unfold ofWatch launched Watch.launch
  rw [filterMap_flight?, ← Multiset.coe_add]

/-- Answers are taken up one after another, each when it is due. -/
theorem passes_ordered {flights : List Flight} {i : Inventory} {rest : Multiset Flight}
    {polling : Option Polling} (hordered : flights.Pairwise fun f g => f.time ≤ g.time)
    (hnow : now ≤ time) (hflights : ∀ f ∈ flights, now ≤ f.time ∧ f.time ≤ time)
    (hrest : ∀ f ∈ rest, time ≤ f.time)
    (hpolling : ∀ p, polling = some p → time ≤ max p.due p.busy) :
    ∃ trace, Passes probe deadline ⟨now, i, flights + rest, polling⟩ trace
      ⟨time, flights.foldl (fun i f => i.record f.id f.status) i, rest, polling⟩ := by
  induction flights generalizing now i with
  | nil =>
    rw [Multiset.coe_nil, Multiset.zero_add]
    exact ⟨_, .tail .refl (.passes hnow hrest hpolling)⟩
  | cons f flights ih =>
    obtain ⟨hfirst, hordered⟩ := List.pairwise_cons.mp hordered
    obtain ⟨⟨hnow, hle⟩, hflights⟩ := List.forall_mem_cons.mp hflights
    obtain ⟨trace, hlater⟩ := ih (i := i.record f.id f.status) hordered hle
      fun g hg => ⟨hfirst g hg, (hflights g hg).2⟩
    have hwaits : Step probe deadline ⟨now, i, (f :: flights : List Flight) + rest, polling⟩ []
        ⟨f.time, i, (f :: flights : List Flight) + rest, polling⟩ := by
      refine .passes hnow (fun g hg => ?_) fun p hp => hle.trans (hpolling p hp)
      rcases Multiset.mem_add.mp hg with hg | hg
      · rcases List.mem_cons.mp (Multiset.mem_coe.mp hg) with rfl | hg
        · exact Nat.le_refl _
        · exact hfirst g hg
      · exact hle.trans (hrest g hg)
    have hanswers : Step probe deadline ⟨f.time, i, (f :: flights : List Flight) + rest, polling⟩
        [.answered f.id f.status] ⟨f.time, i.record f.id f.status, flights + rest, polling⟩ :=
      .answers (by rw [← Multiset.cons_coe, Multiset.cons_add]) rfl
    exact ⟨_, (Passes.tail (.tail .refl hwaits) hanswers).trans hlater⟩

end Flights

section Landing

theorem passes_land (htimely : (ofWatch w now).Timely) (hnow : now ≤ time)
    (hpolling : ∀ p, w.polling = some p → time ≤ max p.due p.busy) :
    ∃ trace, Passes probe deadline (ofWatch w now) trace (ofWatch (w.land time) time) := by
  let landed := (w.flights.filter fun f => f.time ≤ time).mergeSort fun f g => f.time ≤ g.time
  let rest := w.flights.filter fun f => time < f.time
  have hlanded : ∀ f ∈ landed, f ∈ w.flights ∧ f.time ≤ time := by
    intro f hf
    rwa [List.mem_mergeSort, List.mem_filter, decide_eq_true_iff] at hf
  have hordered : landed.Pairwise fun f g => f.time ≤ g.time := pairwise_mergeSort_le Flight.time _
  have hall : (w.flights : Multiset Flight) = landed + rest := by
    have hrest : rest = w.flights.filter fun f => !decide (f.time ≤ time) := by
      refine List.filter_congr fun f _ => ?_
      rw [← decide_not, decide_eq_decide, Nat.not_le]
    rw [Multiset.coe_add, Multiset.coe_eq_coe, hrest]
    exact (((List.mergeSort_perm ..).append_right _).trans (List.filter_append_perm ..)).symm
  unfold ofWatch
  rw [hall]
  refine passes_ordered hordered hnow (fun f hf => ?_) (fun f hf => ?_) hpolling
  · exact ⟨htimely.underway f (Multiset.mem_coe.mpr (hlanded f hf).1), (hlanded f hf).2⟩
  · exact Nat.le_of_lt (Watch.mem_flights_land.mp (Multiset.mem_coe.mp hf)).2

/-- After what is due has landed, nothing is due if no refresh is. -/
theorem ahead_land (hpolling : ∀ p, w.polling = some p → time < max p.due p.busy) :
    (ofWatch (w.land time) time).Ahead :=
  ⟨fun _ hf => (Watch.mem_flights_land.mp (Multiset.mem_coe.mp hf)).2, hpolling⟩

/-- A refresh that is due starts for all entries, after what is due by then. -/
theorem passes_refreshAt (probe : Probe) (deadline : Nat) {p : Polling}
    (hpolling : w.polling = some p) (htimely : (ofWatch w now).Timely) (hnow : now ≤ p.next) :
    ∃ trace, Passes probe deadline (ofWatch w now) trace
      (ofWatch (w.refreshAt probe deadline p p.next) p.next) := by
  have hdue : ∀ q, w.polling = some q → p.next ≤ max q.due q.busy := by
    intro q hq
    cases hpolling.symm.trans hq
    exact Nat.le_refl _
  obtain ⟨before, hbefore⟩ := passes_land htimely hnow hdue
  let v := w.land p.next
  let busy := p.next + finish deadline (v.inventory.entries.map fun e => probe e.definition)
  let next : Polling := ⟨p.interval, p.due + p.interval, busy⟩
  let u : Watch := { v.launch probe v.inventory.entries p.next busy none with polling := some next }
  have hpolls : Step probe deadline (ofWatch v p.next) (starts probe v.inventory.entries)
      (ofWatch u p.next) := by
    have hlaunched : ofWatch u p.next =
        { (ofWatch v p.next).launched probe busy v.inventory.entries with
          polling := some next } := by
      rw [← ofWatch_launch]
      rfl
    rw [hlaunched]
    exact .polls hpolling rfl rfl
  have hpassed := hbefore.tail hpolls
  have hbusy : p.next ≤ busy := Nat.le_add_right ..
  obtain ⟨after, hafter⟩ := passes_land (hpassed.onward.timely htimely) (Nat.le_refl p.next)
    (w := u) fun q hq => by
      cases hq
      exact hbusy.trans (Nat.le_max_right ..)
  exact ⟨_, hpassed.trans hafter⟩

/-- All that is due up to a time happens. Each refresh makes the next one due later, so that many
are enough. -/
theorem passes_runBounded {refreshes : Nat} (htimely : (ofWatch w now).Timely) (hnow : now ≤ time)
    (henough : ∀ p, w.polling = some p → time < p.due + refreshes) :
    ∃ trace, Passes probe deadline (ofWatch w now) trace
        (ofWatch (w.runBounded probe deadline time refreshes) time) ∧
      (ofWatch (w.runBounded probe deadline time refreshes) time).Ahead := by
  have hlands {v : Watch} {now : Nat} (htimely : (ofWatch v now).Timely) (hnow : now ≤ time)
      (hahead : ∀ p, v.polling = some p → time < max p.due p.busy) :
      ∃ trace, Passes probe deadline (ofWatch v now) trace (ofWatch (v.land time) time) ∧
        (ofWatch (v.land time) time).Ahead := by
    obtain ⟨trace, hpasses⟩ := passes_land htimely hnow fun p hp => Nat.le_of_lt (hahead p hp)
    exact ⟨trace, hpasses, ahead_land hahead⟩
  -- A refresh that starts takes one of those that are left, and moves the next by the interval.
  induction refreshes generalizing w now with
  | zero =>
    exact hlands htimely hnow fun p hp => (henough p hp).trans_le (Nat.le_max_left ..)
  | succ n ih =>
    unfold Watch.runBounded
    split
    · next hnone => exact hlands htimely hnow fun p hp => by rw [hnone] at hp; cases hp
    · next p hpolling =>
      obtain ⟨hdue, hinterval⟩ := htimely.polling p hpolling
      have hfuel := henough p hpolling
      split_ifs with hnext
      · obtain ⟨before, hbefore⟩ := passes_refreshAt probe deadline hpolling htimely hdue
        obtain ⟨after, hafter, hahead⟩ := ih (hbefore.onward.timely htimely) hnext fun q hq => by
          cases hq
          dsimp only
          omega
        exact ⟨_, hbefore.trans hafter, hahead⟩
      · refine hlands htimely hnow fun q hq => ?_
        cases hpolling.symm.trans hq
        exact Nat.lt_of_not_le hnext

theorem passes_runUntil (htimely : (ofWatch w now).Timely) (hnow : now ≤ time) (probe : Probe)
    (deadline : Nat) :
    ∃ trace, Passes probe deadline (ofWatch w now) trace
        (ofWatch (w.runUntil probe deadline time) time) ∧
      (ofWatch (w.runUntil probe deadline time) time).Ahead := by
  refine passes_runBounded htimely hnow fun p hp => ?_
  rw [hp]
  dsimp only
  omega

end Landing

section Waiting

theorem now_sleep (w : Watch) (duration : Nat) :
    (w.sleep probe deadline duration).now = w.now + duration := by
  unfold Watch.sleep
  split_ifs with hzero
  · rw [hzero]
    rfl
  · rfl

theorem passes_sleep (htimely : (current w).Timely) (probe : Probe) (deadline duration : Nat) :
    ∃ trace, Passes probe deadline (current w) trace
      (current (w.sleep probe deadline duration)) := by
  unfold Watch.sleep
  split_ifs with hzero
  · exact ⟨[], .refl⟩
  · have hlast : w.now ≤ w.now + duration - 1 := by omega
    obtain ⟨trace, hpasses, hahead⟩ := passes_runUntil htimely hlast probe deadline
    -- Nothing is due any more in the last moment, so it can pass as well.
    refine ⟨_, hpasses.tail (.passes (Nat.sub_le ..) (fun f hf => ?_) fun p hp => ?_)⟩
    · exact Nat.le_of_pred_lt (hahead.underway f hf)
    · exact Nat.le_of_pred_lt (hahead.polling p hp)

theorem passes_join (htimely : (current w).Timely) (probe : Probe) (deadline duration : Nat) :
    ∃ trace, Passes probe deadline (current w) trace
        (current (w.join probe deadline duration)) ∧
      (current (w.join probe deadline duration)).Ahead :=
  passes_runUntil htimely (Nat.le_add_right ..) probe deadline

/-- Whoever has an entry probed is told what its probe answers, or waits in vain. -/
theorem awaits_refreshOne (htimely : (current w).Timely) (probe : Probe)
    (deadline patience : Nat) (e : Entry) :
    ∃ trace, Awaits probe deadline patience (current w) e trace
      (current (w.refreshOne probe deadline patience e).2) := by
  let v : Watch := { w with started := w.started ++ [e.definition] }
  have hslept (duration : Nat) : ∃ trace, Passes probe deadline (current w) trace
      (current (v.sleep probe deadline duration)) :=
    passes_sleep (w := v) htimely probe deadline duration
  have hlost (hlate : ∀ delay status, probe e.definition = .answered delay status →
      patience < delay) : ∃ trace, Awaits probe deadline patience (current w) e trace
        (current (v.sleep probe deadline patience)) := by
    obtain ⟨trace, hpasses⟩ := hslept patience
    exact ⟨_, .lost hlate hpasses (now_sleep v patience)⟩
  unfold Watch.refreshOne
  dsimp only
  cases hprobe : probe e.definition with
  | answered delay status =>
    by_cases hle : delay ≤ patience
    · obtain ⟨trace, hpasses⟩ := hslept delay
      simp only [Outcome.within, Outcome.time?, if_pos hle]
      exact ⟨_, .answered hprobe hle hpasses (now_sleep v delay)⟩
    · simp only [Outcome.within, Outcome.time?, if_neg hle]
      refine hlost fun time _ hsame => ?_
      cases hprobe.symm.trans hsame
      exact Nat.lt_of_not_le hle
  | lost time =>
    have hnever : ∀ delay status, probe e.definition = .answered delay status →
        patience < delay := by simp [hprobe]
    by_cases hle : time ≤ patience
    · simpa only [Outcome.within, Outcome.time?, if_pos hle] using hlost hnever
    · simpa only [Outcome.within, Outcome.time?, if_neg hle] using hlost hnever
  | silent => exact hlost (by simp [hprobe])

section Refresh

variable {entries : List Entry}

theorem snd_refreshAll_of_lt (hne : entries ≠ [])
    (himpatient : patience < finish deadline (entries.map fun e => probe e.definition)) :
    (w.refreshAll probe deadline patience entries).2 =
      ((w.runUntil probe deadline w.now).launch probe entries w.now 0 (some patience)).sleep
        probe deadline patience := by
  have hempty : ¬ entries.isEmpty = true := by
    rw [List.isEmpty_iff]
    exact hne
  unfold Watch.refreshAll
  dsimp only
  rw [if_neg hempty, if_pos himpatient, Watch.now_runUntil]

theorem current_launch {u : Watch} (hnow : u.now = now) (entries : List Entry) :
    current (u.launch probe entries now 0 none) =
      (ofWatch u now).launched probe 0 entries := by
  subst hnow
  exact ofWatch_launch u entries

/-- What is started by someone who gives up, with the answers that come too late for them. -/
theorem current_launch_some {u : Watch} (hnow : u.now = now) (limit : Nat) (entries : List Entry) :
    { current (u.launch probe entries now 0 (some limit)) with
      underway := (current (u.launch probe entries now 0 (some limit))).underway +
        ((answers probe now 0 entries).filter fun f => now + limit ≤ f.time : List Flight) } =
      (ofWatch u now).launched probe 0 entries := by
  subst hnow
  unfold current ofWatch launched Watch.launch
  dsimp only
  rw [filterMap_flight?_some, Multiset.coe_add, Multiset.coe_add, List.append_assoc]
  have hall := (List.perm_append_comm.trans
    (List.filter_append_perm (fun f => decide (u.now + limit ≤ f.time))
      (answers probe u.now 0 entries))).append_left u.flights
  rw [Multiset.coe_eq_coe.mpr hall]

/-- What was due goes first, and nothing is overdue when the probes have started. -/
theorem exists_passes_before (htimely : (current w).Timely)
    (hknown : ∀ e ∈ entries, e ∈ w.inventory.entries) (probe : Probe) (deadline : Nat) :
    ∃ before, Passes probe deadline (current w) before
        (ofWatch (w.runUntil probe deadline w.now) w.now) ∧
      ((ofWatch (w.runUntil probe deadline w.now) w.now).launched probe 0 entries).Timely := by
  obtain ⟨before, hdue, -⟩ := passes_runUntil htimely (Nat.le_refl w.now) probe deadline
  have hlaunched := onward_launched (hdue.onward.entries ▸ hknown) probe 0
  exact ⟨before, hdue, hlaunched.timely (hdue.onward.timely htimely)⟩

theorem refreshes_of_le (htimely : (current w).Timely) (hne : entries ≠ [])
    (hknown : ∀ e ∈ entries, e ∈ w.inventory.entries)
    (hpatience : finish deadline (entries.map fun e => probe e.definition) ≤ patience) :
    ∃ trace, Refreshes probe deadline patience (current w) entries trace
      (current (w.refreshAll probe deadline patience entries).2) := by
  let duration := finish deadline (entries.map fun e => probe e.definition)
  let u := w.runUntil probe deadline w.now
  let v := u.launch probe entries w.now 0 none
  have hnow : u.now = w.now := Watch.now_runUntil probe deadline w.now w
  have hv : current v = (ofWatch u w.now).launched probe 0 entries := current_launch hnow entries
  obtain ⟨before, hdue, hlaunched⟩ := exists_passes_before htimely hknown probe deadline
  rw [← hv] at hlaunched
  rw [Watch.snd_refreshAll hne hpatience]
  dsimp only
  split_ifs with hearly
  · obtain ⟨meanwhile, hpasses, hahead⟩ := passes_join hlaunched probe deadline duration
    have helapsed : (v.join probe deadline duration).now = w.now + duration :=
      congrArg (· + duration) hnow
    rw [hv] at hpasses
    exact ⟨_, .waited hne rfl hpatience hdue rfl hpasses helapsed fun _ => hahead⟩
  · obtain ⟨meanwhile, hpasses⟩ := passes_sleep hlaunched probe deadline duration
    have helapsed : (v.sleep probe deadline duration).now = w.now + duration :=
      (now_sleep v duration).trans (congrArg (· + duration) hnow)
    rw [hv] at hpasses
    exact ⟨_, .waited hne rfl hpatience hdue rfl hpasses helapsed fun h => absurd h hearly⟩

theorem refreshes_of_lt (htimely : (current w).Timely) (hne : entries ≠ [])
    (hknown : ∀ e ∈ entries, e ∈ w.inventory.entries)
    (himpatient : patience < finish deadline (entries.map fun e => probe e.definition)) :
    ∃ trace, Refreshes probe deadline patience (current w) entries trace
      (current (w.refreshAll probe deadline patience entries).2) := by
  let u := w.runUntil probe deadline w.now
  let v := u.launch probe entries w.now 0 (some patience)
  let late := (answers probe w.now 0 entries).filter fun f => w.now + patience ≤ f.time
  have hnow : u.now = w.now := Watch.now_runUntil probe deadline w.now w
  have helapsed : (v.sleep probe deadline patience).now = w.now + patience :=
    (now_sleep v patience).trans (congrArg (· + patience) hnow)
  have hv : { current v with underway := (current v).underway + late } =
      (ofWatch u w.now).launched probe 0 entries := current_launch_some hnow patience entries
  obtain ⟨before, hdue, hlaunched⟩ := exists_passes_before htimely hknown probe deadline
  rw [← hv] at hlaunched
  have hstarted : (current v).Timely := (onward_lost (current v) late).timely hlaunched
  obtain ⟨meanwhile, hpasses⟩ := passes_sleep hstarted probe deadline patience
  have hlate : ∀ f ∈ (late : Multiset Flight), (v.sleep probe deadline patience).now ≤ f.time := by
    intro f hf
    rw [helapsed]
    exact of_decide_eq_true (List.mem_filter.mp (Multiset.mem_coe.mp hf)).2
  have hbeside := hpasses.beside hlate
  rw [hv] at hbeside
  rw [snd_refreshAll_of_lt hne himpatient]
  refine ⟨_, .gaveUp hne himpatient hdue rfl hbeside helapsed ?_⟩
  change late = (answers probe w.now 0 entries).filter
    fun f => (v.sleep probe deadline patience).now ≤ f.time
  rw [helapsed]

/-- Whoever has all entries probed waits until the probes are through, or gives up. -/
theorem refreshes_refreshAll (htimely : (current w).Timely)
    (hknown : ∀ e ∈ entries, e ∈ w.inventory.entries) (probe : Probe) (deadline patience : Nat) :
    ∃ trace, Refreshes probe deadline patience (current w) entries trace
      (current (w.refreshAll probe deadline patience entries).2) := by
  by_cases hne : entries = []
  · subst hne
    exact ⟨[], .nobody rfl⟩
  · rcases Nat.lt_or_ge patience (finish deadline (entries.map fun e => probe e.definition)) with
      hlt | hle
    · exact refreshes_of_lt htimely hne hknown hlt
    · exact refreshes_of_le htimely hne hknown hle

end Refresh

theorem halts_stopPolling (w : Watch) :
    ∃ trace, Halts (current w) trace (current w.stopPolling) := by
  let keeps : Flight → Bool := fun f => f.time ≤ w.now || f.bound ≤ w.now
  refine ⟨_, @Halts.intro _ (w.flights.filter fun f => !keeps f)
    (w.flights.filter keeps : List Flight) ?_ (fun f hf => ?_) fun f hf => ?_⟩
  · rw [Multiset.coe_add]
    exact Multiset.coe_eq_coe.mpr
      (List.perm_append_comm.trans (List.filter_append_perm keeps w.flights)).symm
  · have hends := (List.mem_filter.mp hf).2
    simp only [keeps, Bool.not_eq_true', Bool.or_eq_false_iff, decide_eq_false_iff_not,
      Nat.not_le] at hends
    exact hends.symm
  · have hkeeps := (List.mem_filter.mp (Multiset.mem_coe.mp hf)).2
    simp only [keeps, Bool.or_eq_true, decide_eq_true_eq] at hkeeps
    exact hkeeps.symm

end Waiting

end MetastoreFederation.Federation.Outlook
