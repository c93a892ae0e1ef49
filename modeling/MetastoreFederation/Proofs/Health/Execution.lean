import Mathlib.Data.Multiset.Count
import Mathlib.Data.Multiset.UnionInter
import Mathlib.Logic.Relation
import Mathlib.Order.Bounds.Defs
import MetastoreFederation.Health.Probe

/-!
Executions of a refresh of many statuses. Each probe has a task of its own, which writes the status
of its entry when the probe answers; tasks that are due at the same time end in any order, and that
they have ended is counted in any order. Whatever the order, the refresh returns in time, with the
statuses that were found before the deadline and a report that tells how many these are.
-/

set_option autoImplicit false
set_option relaxedAutoImplicit false

namespace MetastoreFederation.Health

open Metastore Request
open Relation (ReflTransGen)

/-- What a refresh comes to, given what comes of the probe of each entry: after how long it returns,
what it reports, and the statuses after it. -/
structure Refreshed (outcome : Entry → Outcome Status) (deadline : Nat) (entries : List Entry)
    (before : StatusBoard) (elapsed : Nat) (report : Report) (after : StatusBoard) : Prop where
  /-- It returns when the last probe has ended or at the deadline, whichever is first. -/
  returns : IsLeast
    {t | (∀ e ∈ entries, ∃ time ≤ t, (outcome e).time? = some time) ∨ t = deadline} elapsed
  answered : ∀ e ∈ entries, ∀ time status, outcome e = .answered time status → time < deadline →
    after.status e.id = status
  /-- Whose probe does not answer up to the deadline keeps the previous status. -/
  kept : ∀ e ∈ entries, (∀ time status, outcome e = .answered time status → deadline < time) →
    after.status e.id = before.status e.id
  total : report.total = entries.length
  completed : (∀ e ∈ entries, ∀ status, outcome e ≠ .answered deadline status) →
    report.completed = entries.countP fun e => inTime deadline (outcome e)

/-- A refresh under way: the tasks that run, for each task that has ended and was not yet looked at
whether it has reported, how many reports were counted, the statuses, and the time that has passed.
-/
structure Progress where
  running : Multiset Entry
  ended : Multiset Bool
  completed : Nat
  statuses : StatusBoard
  clock : Nat

namespace Progress

/-- The start, with a task for each entry. -/
def start (entries : List Entry) (before : StatusBoard) : Progress := ⟨entries, 0, 0, before, 0⟩

/-- The refresh may return: all tasks have ended and are counted, or the deadline is there. -/
def Over (deadline : Nat) (p : Progress) : Prop :=
  (p.running = 0 ∧ p.ended = 0) ∨ p.clock = deadline

/-- A step of the refresh: a task that is due ends with the answer of its probe or dies with it, or
the end of a task is looked at. Where neither is possible, time passes, but neither beyond the
deadline nor beyond the time at which a task is due. -/
inductive Step (outcome : Entry → Outcome Status) (deadline : Nat) : Progress → Progress → Prop
  | reports {e : Entry} {running : Multiset Entry} {ended : Multiset Bool}
      {completed clock time : Nat} {statuses : StatusBoard} {status : Status}
      (answers : outcome e = .answered time status) (due : time ≤ clock) :
      Step outcome deadline ⟨e ::ₘ running, ended, completed, statuses, clock⟩
        ⟨running, true ::ₘ ended, completed, statuses.record e.id status, clock⟩
  | dies {e : Entry} {running : Multiset Entry} {ended : Multiset Bool}
      {completed clock time : Nat} {statuses : StatusBoard}
      (lost : outcome e = .lost time) (due : time ≤ clock) :
      Step outcome deadline ⟨e ::ₘ running, ended, completed, statuses, clock⟩
        ⟨running, false ::ₘ ended, completed, statuses, clock⟩
  | joins {running : Multiset Entry} {ended : Multiset Bool} {reported : Bool}
      {completed clock : Nat} {statuses : StatusBoard} :
      Step outcome deadline ⟨running, reported ::ₘ ended, completed, statuses, clock⟩
        ⟨running, ended, completed + reported.toNat, statuses, clock⟩
  | passes {running : Multiset Entry} {completed clock next : Nat} {statuses : StatusBoard}
      (later : clock < next) (inTime : next ≤ deadline) (busy : running ≠ 0)
      (first : ∀ e ∈ running, ∀ time, (outcome e).time? = some time → next ≤ time) :
      Step outcome deadline ⟨running, 0, completed, statuses, clock⟩
        ⟨running, 0, completed, statuses, next⟩

variable {outcome : Entry → Outcome Status} {deadline : Nat} {entries : List Entry}
  {before : StatusBoard} {p q : Progress}

section Termination

/-- The tasks that have to end, those that have to be looked at, and the time to pass. -/
def remaining (deadline : Nat) (p : Progress) : Nat :=
  2 * p.running.card + p.ended.card + (deadline - p.clock)

theorem Step.remaining_lt (h : Step outcome deadline p q) :
    q.remaining deadline < p.remaining deadline := by
  unfold remaining
  cases h with
  | reports | dies | joins =>
    simp only [Multiset.card_cons]
    omega
  | passes later inTime =>
    simp only
    omega

/-- No execution goes on for ever. -/
theorem wellFounded_step (outcome : Entry → Outcome Status) (deadline : Nat) :
    WellFounded fun q p => Step outcome deadline p q :=
  Subrelation.wf (fun h => h.remaining_lt) (measure (remaining deadline)).wf

theorem exists_step_of_due {e : Entry} {time : Nat} (he : e ∈ p.running)
    (htime : (outcome e).time? = some time) (hdue : time ≤ p.clock) :
    ∃ q, Step outcome deadline p q := by
  obtain ⟨running, ended, completed, statuses, clock⟩ := p
  obtain ⟨rest, rfl⟩ := Multiset.exists_cons_of_mem he
  cases houtcome : outcome e with
  | answered answered status =>
    rw [houtcome] at htime
    exact ⟨_, .reports houtcome (Option.some.inj htime ▸ hdue)⟩
  | lost lost =>
    rw [houtcome] at htime
    exact ⟨_, .dies houtcome (Option.some.inj htime ▸ hdue)⟩
  | silent =>
    rw [houtcome] at htime
    cases htime

/-- An execution stops only where the refresh may return. -/
theorem over_or_exists_step (outcome : Entry → Outcome Status) (hclock : p.clock ≤ deadline) :
    p.Over deadline ∨ ∃ q, Step outcome deadline p q := by
  by_cases hover : p.Over deadline
  · exact .inl hover
  right
  obtain ⟨hbusy, hearly⟩ := not_or.mp hover
  by_cases hended : p.ended = 0
  · have hrunning : p.running ≠ 0 := fun h => hbusy ⟨h, hended⟩
    by_cases hdue : ∃ e ∈ p.running, ∃ time ≤ p.clock, (outcome e).time? = some time
    · obtain ⟨e, he, time, hle, htime⟩ := hdue
      exact exists_step_of_due he htime hle
    · obtain ⟨running, ended, completed, statuses, clock⟩ := p
      obtain rfl : ended = 0 := hended
      refine ⟨_, .passes (Nat.lt_succ_self clock) (Nat.lt_of_le_of_ne hclock hearly) hrunning ?_⟩
      intro e he time htime
      exact Nat.lt_of_not_le fun hle => hdue ⟨e, he, time, hle, htime⟩
  · obtain ⟨running, ended, completed, statuses, clock⟩ := p
    obtain ⟨reported, hreported⟩ := Multiset.exists_mem_of_ne_zero hended
    obtain ⟨rest, rfl⟩ := Multiset.exists_cons_of_mem hreported
    exact ⟨_, .joins⟩

end Termination

/-- The probe answers at some time. -/
def answers : Outcome Status → Bool
  | .answered .. => true
  | _ => false

/-- What is sure of a refresh under way whose tasks have ended for the entries that are gone. -/
structure Along (outcome : Entry → Outcome Status) (deadline : Nat) (entries : List Entry)
    (before : StatusBoard) (gone : Multiset Entry) (p : Progress) : Prop where
  tasks : p.running + gone = entries
  ended : ∀ e ∈ gone, ∃ time ≤ p.clock, (outcome e).time? = some time
  ahead : ∀ e ∈ p.running, ∀ time, (outcome e).time? = some time → p.clock ≤ time
  recorded : ∀ e ∈ gone, ∀ time status, outcome e = .answered time status →
    p.statuses.status e.id = status
  untouched : ∀ e ∈ entries, (e ∈ gone → answers (outcome e) = false) →
    p.statuses.status e.id = before.status e.id
  counted : p.completed + p.ended.count true = gone.countP fun e => answers (outcome e)
  /-- A report that is not counted yet has come just now. -/
  fresh : true ∈ p.ended → ∃ e ∈ gone, ∃ status, outcome e = .answered p.clock status
  inTime : p.clock ≤ deadline
  awaited : ∀ t, (∀ e ∈ entries, ∃ time ≤ t, (outcome e).time? = some time) → p.clock ≤ t

namespace Along

variable {gone : Multiset Entry}

theorem start (outcome : Entry → Outcome Status) (deadline : Nat) (entries : List Entry)
    (before : StatusBoard) :
    Along outcome deadline entries before 0 (Progress.start entries before) where
  tasks := Multiset.add_zero _
  ended := nofun
  ahead _ _ _ _ := Nat.zero_le _
  recorded := nofun
  untouched _ _ _ := rfl
  counted := rfl
  fresh := nofun
  inTime := Nat.zero_le _
  awaited _ _ := Nat.zero_le _

theorem mem_entries_of_gone (h : Along outcome deadline entries before gone p) {e : Entry}
    (he : e ∈ gone) : e ∈ entries := by
  rw [← Multiset.mem_coe, ← h.tasks]
  exact Multiset.mem_add.mpr (.inr he)

theorem mem_running_or_gone (h : Along outcome deadline entries before gone p) {e : Entry}
    (he : e ∈ entries) : e ∈ p.running ∨ e ∈ gone := by
  rw [← Multiset.mem_coe, ← h.tasks] at he
  exact Multiset.mem_add.mp he

/-- A task that is not at its end yet has nothing to do with the tasks that have ended. -/
theorem id_ne_of_gone (h : Along outcome deadline entries before gone p)
    (hids : (entries.map Entry.id).Nodup) {e f : Entry} (he : e ∈ p.running) (hf : f ∈ gone) :
    f.id ≠ e.id := by
  have hnodup : ((p.running + gone).map Entry.id).Nodup := by
    rw [h.tasks]
    exact Multiset.coe_nodup.mpr hids
  rw [Multiset.map_add] at hnodup
  exact fun hsame => (Multiset.disjoint_left.mp (Multiset.nodup_add.mp hnodup).2.2)
    (Multiset.mem_map_of_mem _ he) (hsame ▸ Multiset.mem_map_of_mem _ hf)

/-- A task that ends writes nothing but the answer, under its own entry. -/
theorem reports {e : Entry} {running : Multiset Entry} {ended : Multiset Bool}
    {completed clock time : Nat} {statuses : StatusBoard} {status : Status}
    (h : Along outcome deadline entries before gone
      ⟨e ::ₘ running, ended, completed, statuses, clock⟩)
    (hids : (entries.map Entry.id).Nodup) (hanswers : outcome e = .answered time status)
    (hdue : time ≤ clock) :
    Along outcome deadline entries before (e ::ₘ gone)
      ⟨running, true ::ₘ ended, completed, statuses.record e.id status, clock⟩ := by
  have htime : (outcome e).time? = some time := congrArg Outcome.time? hanswers
  have he : e ∈ e ::ₘ running := Multiset.mem_cons_self e running
  have hmem : e ∈ entries := by
    rw [← Multiset.mem_coe, ← h.tasks]
    exact Multiset.mem_add.mpr (.inl he)
  refine ⟨?_, ?_, ?_, ?_, ?_, ?_, ?_, h.inTime, h.awaited⟩
  · rw [Multiset.add_cons, ← Multiset.cons_add]
    exact h.tasks
  · exact Multiset.forall_mem_cons.mpr ⟨⟨time, hdue, htime⟩, h.ended⟩
  · exact fun f hf => h.ahead f (Multiset.mem_cons_of_mem hf)
  · refine Multiset.forall_mem_cons.mpr ⟨fun _ _ h' => ?_, fun f hf answered other hother => ?_⟩
    · rw [hanswers] at h'
      cases h'
      exact (StatusBoard.status_record ..).trans (if_pos rfl)
    · refine (StatusBoard.status_record ..).trans ((if_neg (h.id_ne_of_gone hids he hf)).trans ?_)
      exact h.recorded f hf answered other hother
  · intro f hf hsilent
    have hne : f.id ≠ e.id := by
      intro hsame
      obtain rfl := List.inj_on_of_nodup_map hids hf hmem hsame
      have hanswered := hsilent (Multiset.mem_cons_self f gone)
      rw [hanswers] at hanswered
      cases hanswered
    refine (StatusBoard.status_record ..).trans ((if_neg hne).trans ?_)
    exact h.untouched f hf fun hgone => hsilent (Multiset.mem_cons_of_mem hgone)
  · have hcounted := h.counted
    have hpos : answers (outcome e) = true := by
      rw [hanswers]
      rfl
    rw [Multiset.countP_cons_of_pos (p := fun e => answers (outcome e) = true) gone hpos,
      ← hcounted, Multiset.count_cons_self]
    rfl
  · have hclock : time = clock := Nat.le_antisymm hdue (h.ahead e he time htime)
    exact fun _ => ⟨e, Multiset.mem_cons_self e gone, status, hclock ▸ hanswers⟩

/-- A task that dies writes nothing. -/
theorem dies {e : Entry} {running : Multiset Entry} {ended : Multiset Bool}
    {completed clock time : Nat} {statuses : StatusBoard}
    (h : Along outcome deadline entries before gone
      ⟨e ::ₘ running, ended, completed, statuses, clock⟩)
    (hlost : outcome e = .lost time) (hdue : time ≤ clock) :
    Along outcome deadline entries before (e ::ₘ gone)
      ⟨running, false ::ₘ ended, completed, statuses, clock⟩ := by
  refine ⟨?_, ?_, ?_, ?_, ?_, ?_, ?_, h.inTime, h.awaited⟩
  · rw [Multiset.add_cons, ← Multiset.cons_add]
    exact h.tasks
  · exact Multiset.forall_mem_cons.mpr ⟨⟨time, hdue, congrArg Outcome.time? hlost⟩, h.ended⟩
  · exact fun f hf => h.ahead f (Multiset.mem_cons_of_mem hf)
  · refine Multiset.forall_mem_cons.mpr ⟨fun _ _ h' => ?_, h.recorded⟩
    rw [hlost] at h'
    cases h'
  · exact fun f hf hsilent =>
      h.untouched f hf fun hgone => hsilent (Multiset.mem_cons_of_mem hgone)
  · have hneg : ¬ answers (outcome e) = true := by
      rw [hlost]
      exact Bool.false_ne_true
    rw [Multiset.countP_cons_of_neg (p := fun e => answers (outcome e) = true) gone hneg,
      Multiset.count_cons_of_ne (by decide)]
    exact h.counted
  · intro hfresh
    rcases Multiset.mem_cons.mp hfresh with hfalse | hfresh
    · cases hfalse
    · obtain ⟨f, hf, hanswered⟩ := h.fresh hfresh
      exact ⟨f, Multiset.mem_cons_of_mem hf, hanswered⟩

theorem joins {running : Multiset Entry} {ended : Multiset Bool} {reported : Bool}
    {completed clock : Nat} {statuses : StatusBoard}
    (h : Along outcome deadline entries before gone
      ⟨running, reported ::ₘ ended, completed, statuses, clock⟩) :
    Along outcome deadline entries before gone
      ⟨running, ended, completed + reported.toNat, statuses, clock⟩ := by
  refine ⟨h.tasks, h.ended, h.ahead, h.recorded, h.untouched, ?_,
    fun hfresh => h.fresh (Multiset.mem_cons_of_mem hfresh), h.inTime, h.awaited⟩
  have hcounted := h.counted
  cases reported with
  | true =>
    rw [Multiset.count_cons_self] at hcounted
    rw [← hcounted, Bool.toNat_true]
    exact Nat.add_right_comm ..
  | false =>
    rw [Multiset.count_cons_of_ne (by decide)] at hcounted
    exact hcounted

theorem passes {running : Multiset Entry} {completed clock next : Nat} {statuses : StatusBoard}
    (h : Along outcome deadline entries before gone ⟨running, 0, completed, statuses, clock⟩)
    (hlater : clock < next) (hinTime : next ≤ deadline) (hbusy : running ≠ 0)
    (hfirst : ∀ e ∈ running, ∀ time, (outcome e).time? = some time → next ≤ time) :
    Along outcome deadline entries before gone ⟨running, 0, completed, statuses, next⟩ := by
  refine ⟨h.tasks, fun e he => ?_, hfirst, h.recorded, h.untouched, h.counted, nofun, hinTime,
    fun t hended => ?_⟩
  · obtain ⟨time, hle, htime⟩ := h.ended e he
    exact ⟨time, hle.trans (Nat.le_of_lt hlater), htime⟩
  · obtain ⟨e, he⟩ := Multiset.exists_mem_of_ne_zero hbusy
    have hmem : e ∈ entries := by
      rw [← Multiset.mem_coe, ← h.tasks]
      exact Multiset.mem_add.mpr (.inl he)
    obtain ⟨time, hle, htime⟩ := hended e hmem
    exact (hfirst e he time htime).trans hle

/-- A step ends no tasks but those that are due. -/
theorem step (h : Along outcome deadline entries before gone p)
    (hids : (entries.map Entry.id).Nodup) (hstep : Step outcome deadline p q) :
    ∃ gone', Along outcome deadline entries before gone' q ∧
      ∀ e ∈ gone', e ∈ gone ∨ ∃ time ≤ p.clock, (outcome e).time? = some time := by
  have hsame : ∀ e ∈ gone, e ∈ gone ∨ ∃ time ≤ p.clock, (outcome e).time? = some time :=
    fun _ he => .inl he
  cases hstep with
  | reports answers due =>
    exact ⟨_, h.reports hids answers due,
      Multiset.forall_mem_cons.mpr ⟨.inr ⟨_, due, congrArg Outcome.time? answers⟩, hsame⟩⟩
  | dies lost due =>
    exact ⟨_, h.dies lost due,
      Multiset.forall_mem_cons.mpr ⟨.inr ⟨_, due, congrArg Outcome.time? lost⟩, hsame⟩⟩
  | joins => exact ⟨_, h.joins, hsame⟩
  | passes later inTime busy first => exact ⟨_, h.passes later inTime busy first, hsame⟩

/-- A task that has ended with an answer has ended before the deadline, if not just then. -/
theorem countP_gone (h : Along outcome deadline entries before gone p)
    (htie : ∀ e ∈ gone, ∀ status, outcome e ≠ .answered deadline status) :
    (gone.countP fun e => answers (outcome e)) =
      gone.countP fun e => Health.inTime deadline (outcome e) := by
  refine Multiset.countP_congr rfl fun e he => ?_
  obtain ⟨ended, hended, htime⟩ := h.ended e he
  cases houtcome : outcome e with
  | answered time status =>
    rw [houtcome] at htime
    obtain rfl := Option.some.inj htime
    have hne : time ≠ deadline := by
      rintro rfl
      exact htie e he status houtcome
    have hlt : time < deadline := Nat.lt_of_le_of_ne (hended.trans h.inTime) hne
    simp [answers, Health.inTime, hlt]
  | lost | silent => rfl

/-- Where the refresh may return, no task runs that is due before the deadline. -/
theorem not_inTime_of_running (h : Along outcome deadline entries before gone p)
    (hover : p.Over deadline) {e : Entry} (he : e ∈ p.running) :
    ¬ Health.inTime deadline (outcome e) = true := by
  rcases hover with ⟨hrunning, -⟩ | hclock
  · rw [hrunning] at he
    exact absurd he (Multiset.notMem_zero e)
  · cases houtcome : outcome e with
    | answered time status =>
      have hle := h.ahead e he time (congrArg Outcome.time? houtcome)
      rw [hclock] at hle
      simp [Health.inTime, Nat.not_lt.mpr hle]
    | lost | silent => exact Bool.false_ne_true

/-- Where the refresh may return, the answers before the deadline are counted, if no task has ended
with an answer just at the deadline. -/
theorem completed_eq (h : Along outcome deadline entries before gone p) (hover : p.Over deadline)
    (htie : ∀ e ∈ gone, ∀ status, outcome e ≠ .answered deadline status) :
    p.completed = entries.countP fun e => Health.inTime deadline (outcome e) := by
  have hcounted := h.counted
  have hjoined : p.ended.count true = 0 := by
    rw [Multiset.count_eq_zero]
    intro hfresh
    rcases hover with ⟨-, hended⟩ | hclock
    · rw [hended] at hfresh
      exact Multiset.notMem_zero _ hfresh
    · obtain ⟨e, he, status, hanswered⟩ := h.fresh hfresh
      exact htie e he status (hclock ▸ hanswered)
  have hrunning : (p.running.countP fun e => Health.inTime deadline (outcome e)) = 0 :=
    Multiset.countP_eq_zero.mpr fun e he => h.not_inTime_of_running hover he
  have hentries : (entries.countP fun e => Health.inTime deadline (outcome e)) =
      (p.running + gone).countP fun e => Health.inTime deadline (outcome e) := by
    rw [h.tasks, Multiset.coe_countP]
    simp only [Bool.decide_eq_true]
  rw [hjoined, h.countP_gone htie, Nat.add_zero] at hcounted
  rw [hentries, Multiset.countP_add, hrunning, Nat.zero_add]
  exact hcounted

theorem refreshed (h : Along outcome deadline entries before gone p) (hover : p.Over deadline) :
    Refreshed outcome deadline entries before p.clock ⟨entries.length, p.completed⟩ p.statuses where
  returns := by
    refine ⟨?_, ?_⟩
    · rcases hover with ⟨hrunning, -⟩ | hclock
      · refine .inl fun e he => h.ended e ?_
        rcases h.mem_running_or_gone he with he | he
        · rw [hrunning] at he
          exact absurd he (Multiset.notMem_zero e)
        · exact he
      · exact .inr hclock
    · rintro t (hended | rfl)
      · exact h.awaited t hended
      · exact h.inTime
  answered e he time status hanswered hlt := by
    rcases h.mem_running_or_gone he with he | he
    · exact absurd (by simp [hanswered, Health.inTime, hlt]) (h.not_inTime_of_running hover he)
    · exact h.recorded e he time status hanswered
  kept e he hlate := by
    refine h.untouched e he fun hgone => ?_
    obtain ⟨ended, hended, htime⟩ := h.ended e hgone
    cases houtcome : outcome e with
    | answered time status =>
      rw [houtcome] at htime
      obtain rfl := Option.some.inj htime
      exact absurd (hended.trans h.inTime) (Nat.not_le.mpr (hlate time status houtcome))
    | lost | silent => rfl
  total := rfl
  completed htie := h.completed_eq hover fun e he => htie e (h.mem_entries_of_gone he)

/-- A refresh can go on to where it returns for the first time. No task has ended just at the
deadline then. -/
theorem exists_over (hids : (entries.map Entry.id).Nodup)
    (h : Along outcome deadline entries before gone p)
    (htie : ∀ e ∈ gone, ∀ status, outcome e ≠ .answered deadline status) :
    ∃ q gone', ReflTransGen (Step outcome deadline) p q ∧ q.Over deadline ∧
      Along outcome deadline entries before gone' q ∧
      ∀ e ∈ gone', ∀ status, outcome e ≠ .answered deadline status := by
  induction p using (wellFounded_step outcome deadline).induction generalizing gone with
  | _ p ih =>
    by_cases hover : p.Over deadline
    · exact ⟨p, gone, .refl, hover, h, htie⟩
    · obtain ⟨q, hstep⟩ := (over_or_exists_step outcome h.inTime).resolve_left hover
      have hearly : p.clock < deadline :=
        Nat.lt_of_le_of_ne h.inTime fun hclock => hover (.inr hclock)
      obtain ⟨next, hnext, hended⟩ := h.step hids hstep
      have htie' : ∀ e ∈ next, ∀ status, outcome e ≠ .answered deadline status := by
        intro e he status hanswered
        rcases hended e he with he | ⟨time, hle, htime⟩
        · exact htie e he status hanswered
        · rw [hanswered] at htime
          cases htime
          exact absurd hearly (Nat.not_lt.mpr hle)
      obtain ⟨r, gone', hsteps, hrest⟩ := ih q hstep hnext htie'
      exact ⟨r, gone', .head hstep hsteps, hrest⟩

end Along

theorem along_of_steps (hids : (entries.map Entry.id).Nodup)
    (hsteps : ReflTransGen (Step outcome deadline) (start entries before) p) :
    ∃ gone, Along outcome deadline entries before gone p := by
  induction hsteps with
  | refl => exact ⟨0, .start outcome deadline entries before⟩
  | tail _ hstep ih =>
    obtain ⟨gone, h⟩ := ih
    obtain ⟨gone', h', -⟩ := h.step hids hstep
    exact ⟨gone', h'⟩

end Progress

open Progress

/-- A refresh of the entries returns after the time, with the report and the statuses, in one of its
executions. -/
def Returns (outcome : Entry → Outcome Status) (deadline : Nat) (entries : List Entry)
    (before : StatusBoard) (elapsed : Nat) (report : Report) (after : StatusBoard) : Prop :=
  ∃ p, ReflTransGen (Step outcome deadline) (start entries before) p ∧ p.Over deadline ∧
    p.clock = elapsed ∧ report = ⟨entries.length, p.completed⟩ ∧ p.statuses = after

/-- What is sure of every execution of a refresh: it goes on until the refresh may return and does
not go on for ever, and wherever the refresh returns, it comes to what it should. -/
structure Dependable (outcome : Entry → Outcome Status) (deadline : Nat) (entries : List Entry)
    (before : StatusBoard) : Prop where
  stops : Acc (fun q p => Step outcome deadline p q) (start entries before)
  unblocked : ∀ p, ReflTransGen (Step outcome deadline) (start entries before) p →
    p.Over deadline ∨ ∃ q, Step outcome deadline p q
  refreshed : ∀ elapsed report after,
    Returns outcome deadline entries before elapsed report after →
      Refreshed outcome deadline entries before elapsed report after

theorem dependable {entries : List Entry} (hids : (entries.map Entry.id).Nodup)
    (outcome : Entry → Outcome Status) (deadline : Nat) (before : StatusBoard) :
    Dependable outcome deadline entries before where
  stops := (wellFounded_step outcome deadline).apply _
  unblocked p hsteps := by
    obtain ⟨gone, h⟩ := along_of_steps hids hsteps
    exact over_or_exists_step outcome h.inTime
  refreshed := by
    rintro _ _ _ ⟨p, hsteps, hover, rfl, rfl, rfl⟩
    obtain ⟨gone, h⟩ := along_of_steps hids hsteps
    exact h.refreshed hover

/-- Some execution counts just the answers before the deadline. -/
theorem exists_returns {entries : List Entry} (hids : (entries.map Entry.id).Nodup)
    (outcome : Entry → Outcome Status) (deadline : Nat) (before : StatusBoard) :
    ∃ elapsed after, Returns outcome deadline entries before elapsed
      ⟨entries.length, entries.countP fun e => inTime deadline (outcome e)⟩ after := by
  obtain ⟨p, gone, hsteps, hover, h, htie⟩ :=
    Along.exists_over hids (.start outcome deadline entries before) nofun
  exact ⟨p.clock, p.statuses, p, hsteps, hover, rfl, by rw [h.completed_eq hover htie], rfl⟩

end MetastoreFederation.Health
