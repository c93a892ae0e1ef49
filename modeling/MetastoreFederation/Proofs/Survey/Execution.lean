import Mathlib.Data.Multiset.Bind
import Mathlib.Data.Multiset.Lattice
import Mathlib.Logic.Relation
import Mathlib.Order.Lattice.Nat
import Mathlib.Order.Nat
import Mathlib.Order.WellFounded
import Mathlib.Tactic.Abel
import MetastoreFederation.Proofs.Basic
import MetastoreFederation.Survey

/-!
Executions of surveys. Each target has a task of its own; tasks that are due at the same time end in
any order, and what they leave is taken up in any order. Whatever the order, nothing is lost of the
targets that answer in time, and nobody is waited for beyond the limits.
-/

set_option autoImplicit false
set_option relaxedAutoImplicit false

namespace MetastoreFederation.Survey

open Metastore Request
open Relation (ReflTransGen)

variable {α : Type}

namespace Target

/-- When the task of a target ends, and the items that it leaves if it does not fail. -/
inductive Ends (t : Target α) : Nat → Option (List α) → Prop
  | answered {time : Nat} {items : List α} (outcome : t.outcome = .answered time (.ok items))
      (inTime : time ≤ t.limit) : Ends t time (some items)
  | refused {time : Nat} {cause : ClientError} (outcome : t.outcome = .answered time (.error cause))
      (inTime : time ≤ t.limit) : Ends t time none
  | lost {time : Nat} (outcome : t.outcome = .lost time) (inTime : time ≤ t.limit) :
      Ends t time none
  | expired (late : ∀ time, t.outcome.time? = some time → t.limit < time) : Ends t t.limit none

/-- What a target contributes: its items, where it answers within its limit. -/
def contribution (t : Target α) : List α :=
  match t.outcome with
  | .answered time (.ok items) => if time ≤ t.limit then items else []
  | _ => []

variable {t : Target α} {time : Nat} {result : Option (List α)}

theorem Ends.time_eq (h : t.Ends time result) : time = t.finish := by
  unfold finish
  cases h with
  | answered outcome inTime => simp [outcome, Outcome.time?, inTime]
  | refused outcome inTime => simp [outcome, Outcome.time?, inTime]
  | lost outcome inTime => simp [outcome, Outcome.time?, inTime]
  | expired late =>
    cases htime : t.outcome.time? with
    | none => rfl
    | some time => exact (Nat.min_eq_right (Nat.le_of_lt (late time htime))).symm

theorem Ends.getD_eq (h : t.Ends time result) : result.getD [] = t.contribution := by
  unfold contribution
  cases h with
  | answered outcome inTime => simp [outcome, inTime]
  | refused outcome => simp [outcome]
  | lost outcome => simp [outcome]
  | expired late =>
    split
    · next time items houtcome =>
      have hlate : t.limit < time := late time (by rw [houtcome]; rfl)
      rw [if_neg (Nat.not_le.mpr hlate)]
      rfl
    · rfl

theorem ends_of_arrival? {items : List α} (h : t.arrival? = some (time, items)) :
    t.Ends time (some items) := by
  unfold arrival? at h
  split at h
  · next houtcome =>
    split at h
    · next hle =>
      cases h
      exact .answered houtcome hle
    · cases h
  · cases h

theorem contribution_of_arrival? (t : Target α) :
    t.contribution = (t.arrival?.map Prod.snd).getD [] := by
  unfold contribution arrival?
  rcases houtcome : t.outcome with ⟨time, cause | items⟩ | time | _
  · rfl
  · simp only
    split_ifs <;> rfl
  · rfl
  · rfl

/-- Every task ends. -/
theorem exists_ends (t : Target α) : ∃ result, t.Ends t.finish result := by
  have hends : ∃ time result, t.Ends time result := by
    by_cases hlate : ∀ time, t.outcome.time? = some time → t.limit < time
    · exact ⟨_, _, .expired hlate⟩
    · push Not at hlate
      obtain ⟨time, htime, hle⟩ := hlate
      rcases houtcome : t.outcome with ⟨answered, cause | items⟩ | lost | _ <;>
        rw [houtcome] at htime <;> cases htime
      · exact ⟨_, _, .refused houtcome hle⟩
      · exact ⟨_, _, .answered houtcome hle⟩
      · exact ⟨_, _, .lost houtcome hle⟩
  obtain ⟨time, result, hends⟩ := hends
  rw [← hends.time_eq]
  exact ⟨result, hends⟩

end Target

/-- A survey under way: the tasks that run, what ended tasks have left, the items taken up so far,
and the time that has passed. -/
structure Progress (α : Type) where
  running : Multiset (Target α)
  ended : Multiset (Option (List α))
  items : List α
  clock : Nat

namespace Progress

/-- The start, with a task for each target. -/
def start (targets : List (Target α)) : Progress α := ⟨targets, 0, [], 0⟩

/-- All tasks have ended and all that they left is taken up. -/
def Over (p : Progress α) : Prop := p.running = 0 ∧ p.ended = 0

/-- A step of the survey: a task ends that is due, or what a task has left is taken up. Where
neither is possible, time passes until the first task is due. -/
inductive Step : Progress α → Progress α → Prop
  | ends {t : Target α} {running : Multiset (Target α)} {ended : Multiset (Option (List α))}
      {items : List α} {clock time : Nat} {result : Option (List α)} (ends : t.Ends time result)
      (due : time ≤ clock) :
      Step ⟨t ::ₘ running, ended, items, clock⟩ ⟨running, result ::ₘ ended, items, clock⟩
  | joins {running : Multiset (Target α)} {ended : Multiset (Option (List α))} {items : List α}
      {clock : Nat} {result : Option (List α)} :
      Step ⟨running, result ::ₘ ended, items, clock⟩
        ⟨running, ended, items ++ result.getD [], clock⟩
  | passes {running : Multiset (Target α)} {items : List α} {clock next : Nat}
      (later : clock < next)
      (first : ∀ t ∈ running, ∀ time result, t.Ends time result → next ≤ time)
      (due : ∃ t ∈ running, ∃ result, t.Ends next result) :
      Step ⟨running, 0, items, clock⟩ ⟨running, 0, items, next⟩

/-- The items taken up, those that wait for it, and those that the tasks will leave. -/
def total (p : Progress α) : Multiset α :=
  p.items + (p.ended.bind fun result => ((result.getD [] : List α) : Multiset α)) +
    p.running.bind fun t => (t.contribution : Multiset α)

/-- The time at which the last task has ended. -/
def horizon (p : Progress α) : Nat := max p.clock (p.running.map Target.finish).sup

variable {p q : Progress α}

theorem Step.total_eq (h : Step p q) : q.total = p.total := by
  cases h with
  | ends hends =>
    simp only [total, Multiset.cons_bind, hends.getD_eq]
    abel
  | joins =>
    simp only [total, Multiset.cons_bind, ← Multiset.coe_add]
    abel
  | passes => rfl

theorem Step.horizon_eq (h : Step p q) : q.horizon = p.horizon := by
  cases h with
  | ends hends due =>
    rw [hends.time_eq] at due
    simp only [horizon, Multiset.map_cons, Multiset.sup_cons]
    omega
  | joins => rfl
  | @passes running items clock next later first due =>
    obtain ⟨t, ht, result, hends⟩ := due
    have hle : next ≤ (running.map Target.finish).sup := by
      rw [hends.time_eq]
      exact Multiset.le_sup (Multiset.mem_map_of_mem _ ht)
    simp only [horizon]
    omega

/-- The tasks that have to end, what is to be taken up, and the time to pass. -/
def remaining (p : Progress α) : Nat :=
  2 * p.running.card + p.ended.card + (p.horizon - p.clock)

theorem Step.remaining_lt (h : Step p q) : q.remaining < p.remaining := by
  have hhorizon := h.horizon_eq
  unfold remaining
  rw [hhorizon]
  cases h with
  | ends =>
    simp only [Multiset.card_cons]
    omega
  | joins =>
    simp only [Multiset.card_cons]
    omega
  | @passes running items clock next later first due =>
    have hnext : next ≤ horizon ⟨running, 0, items, clock⟩ := by
      rw [← hhorizon]
      exact Nat.le_max_left ..
    simp only
    omega

/-- No execution goes on for ever. -/
theorem wellFounded_step : WellFounded fun q p : Progress α => Step p q :=
  Subrelation.wf (fun h => h.remaining_lt) (measure remaining).wf

/-- An execution stops only where it is over. -/
theorem over_or_exists_step (p : Progress α) : p.Over ∨ ∃ q, Step p q := by
  obtain ⟨running, ended, items, clock⟩ := p
  by_cases hended : ended = 0
  · subst hended
    by_cases hrunning : running = 0
    · exact .inl ⟨hrunning, rfl⟩
    · right
      -- The task that is due first ends, or it is waited for.
      obtain ⟨t, ht, hfirst⟩ := (measure Target.finish).wf.has_min {t | t ∈ running}
        (Multiset.exists_mem_of_ne_zero hrunning)
      obtain ⟨result, hends⟩ := t.exists_ends
      obtain ⟨rest, rfl⟩ := Multiset.exists_cons_of_mem ht
      by_cases hdue : t.finish ≤ clock
      · exact ⟨_, .ends hends hdue⟩
      · refine ⟨_, .passes (Nat.lt_of_not_le hdue) (fun u hu time other hother => ?_)
          ⟨t, ht, result, hends⟩⟩
        rw [hother.time_eq]
        exact Nat.le_of_not_lt (hfirst u hu)
  · obtain ⟨result, hresult⟩ := Multiset.exists_mem_of_ne_zero hended
    obtain ⟨rest, rfl⟩ := Multiset.exists_cons_of_mem hresult
    exact .inr ⟨_, .joins⟩

theorem total_eq_of_steps (h : ReflTransGen Step p q) : q.total = p.total := by
  induction h with
  | refl => rfl
  | tail _ hstep ih => rw [hstep.total_eq, ih]

theorem horizon_eq_of_steps (h : ReflTransGen Step p q) : q.horizon = p.horizon := by
  induction h with
  | refl => rfl
  | tail _ hstep ih => rw [hstep.horizon_eq, ih]

theorem total_start (targets : List (Target α)) :
    (start targets).total = (targets.flatMap Target.contribution : List α) := by
  simp [total, start, Multiset.coe_bind]

theorem horizon_start (targets : List (Target α)) : (start targets).horizon = finish targets :=
  Nat.max_eq_right (Nat.zero_le _)

/-- The tasks can end in the order of their times. -/
theorem steps_of_ordered {order : List (Target α)}
    (hordered : order.Pairwise fun t u => t.finish ≤ u.finish) (items : List α) (clock : Nat) :
    ReflTransGen Step ⟨order, 0, items, clock⟩
      ⟨0, 0, items ++ order.flatMap Target.contribution, max clock (finish order)⟩ := by
  induction order generalizing items clock with
  | nil =>
    have hclock : max clock (finish ([] : List (Target α))) = clock :=
      Nat.max_eq_left (Nat.zero_le _)
    rw [hclock, List.flatMap_nil, List.append_nil]
    exact .refl
  | cons t rest ih =>
    obtain ⟨hfirst, hrest⟩ := List.pairwise_cons.mp hordered
    obtain ⟨result, hends⟩ := t.exists_ends
    have hwait : ReflTransGen Step ⟨t ::ₘ rest, 0, items, clock⟩
        ⟨t ::ₘ rest, 0, items, max clock t.finish⟩ := by
      by_cases hdue : t.finish ≤ clock
      · rw [Nat.max_eq_left hdue]
      · have hlater : clock < t.finish := Nat.lt_of_not_le hdue
        rw [Nat.max_eq_right (Nat.le_of_lt hlater)]
        refine .single (.passes hlater (fun u hu time other hother => ?_)
          ⟨t, Multiset.mem_cons_self t rest, result, hends⟩)
        rw [hother.time_eq]
        rcases Multiset.mem_cons.mp hu with rfl | hu
        · exact Nat.le_refl _
        · exact hfirst u (Multiset.mem_coe.mp hu)
    have hend : Step ⟨t ::ₘ rest, 0, items, max clock t.finish⟩
        ⟨rest, result ::ₘ 0, items, max clock t.finish⟩ :=
      .ends hends (Nat.le_max_right ..)
    have hjoin : Step ⟨rest, result ::ₘ 0, items, max clock t.finish⟩
        ⟨rest, 0, items ++ t.contribution, max clock t.finish⟩ := by
      rw [← hends.getD_eq]
      exact .joins
    have hlast := ih hrest (items ++ t.contribution) (max clock t.finish)
    rw [List.append_assoc, Nat.max_assoc] at hlast
    rw [← Multiset.cons_coe]
    exact ((hwait.tail hend).tail hjoin).trans hlast

end Progress

open Progress

/-- A survey of the targets returns the items after the time, in one of its executions. -/
def Returns (targets : List (Target α)) (items : List α) (elapsed : Nat) : Prop :=
  ReflTransGen Step (start targets) ⟨0, 0, items, elapsed⟩

variable {targets : List (Target α)} {items : List α} {elapsed : Nat}

/-- No contribution is lost or doubled in any execution, and nothing else is returned. -/
theorem Returns.perm (h : Returns targets items elapsed) :
    items.Perm (targets.flatMap Target.contribution) := by
  have htotal := total_eq_of_steps h
  rw [total_start] at htotal
  apply Multiset.coe_eq_coe.mp
  rw [← htotal]
  simp [total]

/-- All executions return at the same time. -/
theorem Returns.elapsed_eq (h : Returns targets items elapsed) : elapsed = finish targets := by
  have hhorizon := horizon_eq_of_steps h
  rw [horizon_start] at hhorizon
  rw [← hhorizon]
  exact (Nat.max_eq_left (Nat.zero_le _)).symm

/-- The answers can be taken up in every order in which their times do not decrease. -/
theorem returns_of_perm {order : List (Target α)} (hperm : order.Perm targets)
    (hordered : order.Pairwise fun t u => t.finish ≤ u.finish) :
    Returns targets (order.flatMap Target.contribution) (finish targets) := by
  have hstart : start order = start targets := by
    unfold start
    rw [Multiset.coe_eq_coe.mpr hperm]
  have hsteps := steps_of_ordered hordered [] 0
  rw [List.nil_append] at hsteps
  have hreturns : Returns targets (order.flatMap Target.contribution) (max 0 (finish order)) := by
    unfold Returns
    rw [← hstart]
    exact hsteps
  rwa [hreturns.elapsed_eq] at hreturns

example : Returns [⟨5, .answered 1 (.ok [1])⟩, ⟨5, .answered 1 (.ok [2])⟩] [2, 1] 1 :=
  returns_of_perm (List.Perm.swap ..) (by decide)

section Sorting

variable {β : Type}

private theorem eq_of_append_eq_append {p : β → Bool} {l₁ l₂ m₁ m₂ : List β}
    (h : l₁ ++ l₂ = m₁ ++ m₂) (hl₁ : ∀ x ∈ l₁, p x = true) (hm₁ : ∀ x ∈ m₁, p x = true)
    (hl₂ : ∀ x ∈ l₂, ¬ p x = true) (hm₂ : ∀ x ∈ m₂, ¬ p x = true) : l₁ = m₁ ∧ l₂ = m₂ := by
  have hfirst : (l₁ ++ l₂).filter p = l₁ := by
    rw [List.filter_append, List.filter_eq_self.mpr hl₁, List.filter_eq_nil_iff.mpr hl₂,
      List.append_nil]
  have hfirst' : (m₁ ++ m₂).filter p = m₁ := by
    rw [List.filter_append, List.filter_eq_self.mpr hm₁, List.filter_eq_nil_iff.mpr hm₂,
      List.append_nil]
  have heq : l₁ = m₁ := by rw [← hfirst, h, hfirst']
  rw [heq] at h
  exact ⟨heq, List.append_cancel_left h⟩

variable (size : β → Nat)

private theorem mergeSort_cons_of_size (a : β) (l : List β) :
    ∃ l₁ l₂, ((a :: l).mergeSort fun x y => size x ≤ size y) = l₁ ++ a :: l₂ ∧
      (l.mergeSort fun x y => size x ≤ size y) = l₁ ++ l₂ ∧
      (∀ x ∈ l₁, size x < size a) ∧ ∀ x ∈ l₂, size a ≤ size x := by
  obtain ⟨l₁, l₂, hsorted, hrest, hbefore⟩ :=
    List.mergeSort_cons (size_le_trans size) (size_le_total size) a l
  refine ⟨l₁, l₂, hsorted, hrest, fun x hx => ?_, fun x hx => ?_⟩
  · simpa using hbefore x hx
  · have hpairs := pairwise_mergeSort_le size (a :: l)
    rw [hsorted] at hpairs
    exact List.rel_of_pairwise_cons (List.pairwise_append.mp hpairs).2.1 hx

/-- What is picked out of a sorted list is sorted in the same way. -/
private theorem filterMap_mergeSort {γ : Type} {f : β → Option γ} {size' : γ → Nat}
    (hsize : ∀ x y, f x = some y → size' y = size x) (l : List β) :
    (l.mergeSort fun x y => size x ≤ size y).filterMap f =
      (l.filterMap f).mergeSort fun x y => size' x ≤ size' y := by
  induction l with
  | nil => simp
  | cons a l ih =>
    obtain ⟨l₁, l₂, hsorted, hrest, hbefore, hafter⟩ := mergeSort_cons_of_size size a l
    rw [hrest, List.filterMap_append] at ih
    rw [hsorted, List.filterMap_append, List.filterMap_cons, List.filterMap_cons]
    cases ha : f a with
    | none => exact ih
    | some b =>
      obtain ⟨m₁, m₂, hsorted', hrest', hbefore', hafter'⟩ :=
        mergeSort_cons_of_size size' b (l.filterMap f)
      have hlead : ∀ y ∈ l₁.filterMap f, decide (size' y < size' b) = true := by
        intro y hy
        obtain ⟨x, hx, hxy⟩ := List.mem_filterMap.mp hy
        rw [hsize x y hxy, hsize a b ha]
        exact decide_eq_true (hbefore x hx)
      have hfollow : ∀ y ∈ l₂.filterMap f, ¬ decide (size' y < size' b) = true := by
        intro y hy
        obtain ⟨x, hx, hxy⟩ := List.mem_filterMap.mp hy
        rw [hsize x y hxy, hsize a b ha, decide_eq_true_eq]
        exact Nat.not_lt.mpr (hafter x hx)
      rw [hrest'] at ih
      obtain ⟨hm₁, hm₂⟩ := eq_of_append_eq_append ih hlead
        (fun y hy => decide_eq_true (hbefore' y hy)) hfollow
        fun y hy => by simpa using hafter' y hy
      rw [hsorted', hm₁, hm₂]

end Sorting

theorem flatMap_arrivals (targets : List (Target α)) :
    (targets.filterMap Target.arrival?).flatMap Prod.snd =
      targets.flatMap Target.contribution := by
  induction targets with
  | nil => rfl
  | cons t targets ih =>
    rw [List.filterMap_cons, List.flatMap_cons, ← ih]
    cases harrival : t.arrival? with
    | none => rw [t.contribution_of_arrival?, harrival]; rfl
    | some arrival => rw [t.contribution_of_arrival?, harrival]; rfl

/-- To take up the answers in the order of their arrival is one of the executions. -/
theorem returns_gather (targets : List (Target α)) :
    Returns targets (gather targets) (finish targets) := by
  have hsize : ∀ (t : Target α) arrival, t.arrival? = some arrival → arrival.1 = t.finish := by
    rintro t ⟨time, items⟩ harrival
    exact (Target.ends_of_arrival? harrival).time_eq
  let order := targets.mergeSort fun t u => t.finish ≤ u.finish
  have hordered : order.Pairwise fun t u => t.finish ≤ u.finish :=
    pairwise_mergeSort_le Target.finish targets
  have hitems : gather targets = order.flatMap Target.contribution := by
    rw [← flatMap_arrivals, filterMap_mergeSort Target.finish hsize]
    rfl
  rw [hitems]
  exact returns_of_perm (List.mergeSort_perm ..) hordered

/-- What is sure of every execution for some targets: it goes on until it is over and does not go on
for ever, it returns what the targets contribute, and it returns within the largest limit. -/
structure Lossless (targets : List (Target α)) : Prop where
  stops : Acc (fun q p => Step p q) (start targets)
  unblocked : ∀ p, ReflTransGen Step (start targets) p → p.Over ∨ ∃ q, Step p q
  items : ∀ items elapsed, Returns targets items elapsed →
    items.Perm (targets.flatMap Target.contribution)
  inTime : ∀ items elapsed, Returns targets items elapsed →
    elapsed ≤ (targets.map Target.limit).foldr max 0

theorem lossless (targets : List (Target α)) : Lossless targets where
  stops := wellFounded_step.apply _
  unblocked p _ := p.over_or_exists_step
  items _ _ h := h.perm
  inTime items elapsed h := by
    rw [h.elapsed_eq]
    refine finish_le fun t ht => ?_
    exact Multiset.le_sup (Multiset.mem_coe.mpr (List.mem_map_of_mem ht))

/-- What a target contributes stands beside what the others contribute. -/
theorem Returns.perm_middle {before after : List (Target α)} {t : Target α}
    (h : Returns (before ++ t :: after) items elapsed) :
    items.Perm (t.contribution ++ (before ++ after).flatMap Target.contribution) := by
  have hmiddle : (before ++ t :: after).Perm (t :: (before ++ after)) := List.perm_middle
  exact h.perm.trans (hmiddle.flatMap_right _)

private theorem nodup_eraseDups {β : Type} [BEq β] [LawfulBEq β] (l : List β) :
    l.eraseDups.Nodup := by
  match l with
  | [] => simp
  | a :: rest =>
    rw [List.eraseDups_cons, List.nodup_cons]
    refine ⟨?_, nodup_eraseDups (rest.filter fun b => !b == a)⟩
    simp [List.mem_eraseDups]
termination_by l.length
decreasing_by exact Nat.lt_succ_of_le (List.length_filter_le _ _)

variable {κ : Type}

/-- A request to a metastore as a target of the survey, with what comes of it. -/
def awaited (s : Survey κ) (r : Binding κ × Outcome (Except ClientError (List α))) : Target α :=
  ⟨s.timeout + r.1.definition.latency.toNat, r.2⟩

/-- The request that asks a question, with what is read of the client's answer. -/
def Question.request (clients : κ → Client) (q : Question κ α) :
    Binding κ × Outcome (Except ClientError (List α)) :=
  (q.binding,
    match (clients q.binding.client).call q.call with
    | .silent => .silent
    | .lost time => .lost time
    | .answered time (.error cause) => .answered time (.error cause)
    | .answered time (.ok answer) => .answered time (.ok (q.read answer)))

theorem target_eq_awaited (s : Survey κ) (clients : κ → Client) (q : Question κ α) :
    s.target clients q = s.awaited (q.request clients) := by
  unfold target awaited Question.request
  rcases (clients q.binding.client).call q.call with ⟨time, cause | answer⟩ | time | _ <;> rfl

/-- To ask the questions of a survey is one of the executions of their requests. -/
theorem returns_ask (s : Survey κ) (clients : κ → Client) (questions : List (Question κ α)) :
    Returns ((questions.map (Question.request clients)).map s.awaited)
      (s.ask clients questions).items (s.ask clients questions).elapsed := by
  have htargets : questions.map (s.target clients) =
      (questions.map (Question.request clients)).map s.awaited := by
    rw [List.map_map]
    exact List.map_congr_left fun q _ => s.target_eq_awaited clients q
  rw [← htargets]
  exact returns_gather _

/-- A request contributes what its metastore answers, if the answer comes within the timeout and
what the metastore is allowed beyond. -/
theorem mem_contribution_request_iff (s : Survey κ) (clients : κ → Client) (q : Question κ α)
    {item : α} :
    item ∈ (s.awaited (q.request clients)).contribution ↔
      ∃ time answer, (clients q.binding.client).call q.call = .answered time (.ok answer) ∧
        time ≤ s.timeout + q.binding.definition.latency.toNat ∧ item ∈ q.read answer := by
  unfold awaited Question.request Target.contribution
  rcases (clients q.binding.client).call q.call with ⟨time, cause | answer⟩ | time | _
  · simp
  · by_cases hle : time ≤ s.timeout + q.binding.definition.latency.toNat <;> simp [hle]
  · simp
  · simp

/-- The groups of all answers are told once each. -/
theorem Returns.groups {told : List (Target String)} {groups : List String}
    (h : Returns told groups elapsed) :
    groups.eraseDups.Nodup ∧
      ∀ group, group ∈ groups.eraseDups ↔ ∃ t ∈ told, group ∈ t.contribution := by
  refine ⟨nodup_eraseDups groups, fun group => ?_⟩
  rw [List.mem_eraseDups, h.perm.mem_iff, List.mem_flatMap]

/-- Whatever comes of the requests of a survey and in whatever order, nothing is lost of those that
are answered in time, and what comes of one request does not touch what the others contribute. A
survey is asked by one of these executions, with what its clients answer, and the groups are told
once each. -/
theorem lossless_awaited (s : Survey κ) :
    (∀ requests : List (Binding κ × Outcome (Except ClientError (List α))),
      Lossless (requests.map s.awaited)) ∧
    (∀ (before : List (Binding κ × Outcome (Except ClientError (List α)))) request other after
        items elapsed items' elapsed',
      Returns ((before ++ request :: after).map s.awaited) items elapsed →
        Returns ((before ++ other :: after).map s.awaited) items' elapsed' →
        let others := (before ++ after).flatMap fun r => (s.awaited r).contribution
        items.Perm ((s.awaited request).contribution ++ others) ∧
          items'.Perm ((s.awaited other).contribution ++ others)) ∧
    (∀ (told : List (Binding κ × Outcome (Except ClientError (List String)))) groups elapsed,
      Returns (told.map s.awaited) groups elapsed →
        groups.eraseDups.Nodup ∧
          ∀ group, group ∈ groups.eraseDups ↔ ∃ r ∈ told, group ∈ (s.awaited r).contribution) ∧
    (∀ (clients : κ → Client) (questions : List (Question κ α)),
      let report := s.ask clients questions
      Returns ((questions.map (Question.request clients)).map s.awaited) report.items
          report.elapsed ∧
        report.items.Perm
          (questions.flatMap fun q => (s.awaited (q.request clients)).contribution) ∧
        report.elapsed ≤ (questions.map fun q =>
          s.timeout + q.binding.definition.latency.toNat).foldr max 0) ∧
    ∀ (clients : κ → Client) user groups,
      let report := s.setGroups clients user groups
      (∃ gathered, report.items = gathered.eraseDups ∧
        Returns ((s.bindings.map fun b =>
          Question.request clients ⟨b, .setGroups user groups, id⟩).map s.awaited)
          gathered report.elapsed) ∧
      report.items.Nodup ∧
      ∀ group, group ∈ report.items ↔ ∃ b ∈ s.bindings, ∃ time, ∃ answer : List String,
        (clients b.client).call (.setGroups user groups) = .answered time (.ok answer) ∧
          time ≤ s.timeout + b.definition.latency.toNat ∧ group ∈ answer := by
  refine ⟨fun _ => lossless _, ?_, ?_, ?_, ?_⟩
  · intro before request other after items elapsed items' elapsed' h h'
    rw [List.map_append, List.map_cons] at h h'
    have hitems := h.perm_middle
    have hitems' := h'.perm_middle
    rw [← List.map_append, List.flatMap_map] at hitems hitems'
    exact ⟨hitems, hitems'⟩
  · intro told groups elapsed h
    obtain ⟨hnodup, hmem⟩ := h.groups
    refine ⟨hnodup, fun group => (hmem group).trans ?_⟩
    simp only [List.mem_map, exists_exists_and_eq_and]
  · intro clients questions report
    have hreturns := s.returns_ask clients questions
    have hlossless := lossless ((questions.map (Question.request clients)).map s.awaited)
    have hitems := hlossless.items _ _ hreturns
    have hinTime := hlossless.inTime _ _ hreturns
    rw [List.flatMap_map, List.flatMap_map] at hitems
    rw [List.map_map, List.map_map] at hinTime
    exact ⟨hreturns, hitems, hinTime⟩
  · intro clients user groups report
    let questions : List (Question κ String) :=
      s.bindings.map fun b => ⟨b, .setGroups user groups, id⟩
    have hreturns := s.returns_ask clients questions
    have hrequests : questions.map (Question.request clients) = s.bindings.map fun b =>
        Question.request clients ⟨b, .setGroups user groups, id⟩ := List.map_map
    obtain ⟨hnodup, hmem⟩ := hreturns.groups
    refine ⟨⟨_, rfl, hrequests ▸ hreturns⟩, hnodup, fun group => (hmem group).trans ?_⟩
    simp only [questions, List.mem_map, exists_exists_and_eq_and, mem_contribution_request_iff]
    rfl

/-- A metastore that is allowed some time beyond the timeout. -/
def hive (id : Nat) (latency : UInt64) : Binding Nat :=
  ⟨id, ⟨id, { name := "hive", addresses := "a", latency }⟩, id, "", ⟨.readOnly, []⟩, []⟩

/-- What comes of telling six metastores of a user. The first answers late, but it is allowed to;
the others answer in time, fail, answer too late, never answer, and get lost. -/
def sixOutcomes : List (Outcome (Except ClientError (List String))) :=
  [.answered 7 (.ok ["bees", "ants"]), .answered 0 (.ok ["bees"]),
    .answered 1 (.error (.remote "no")), .answered 6 (.ok ["wasps"]), .silent, .lost 2]

def sixClients (id : Nat) : Client where
  call
    | .setGroups _ _ => sixOutcomes.getD id .silent
    | _ => .silent
  ping := .silent

def sixHives : List (Binding Nat) := [hive 0 3, hive 1 0, hive 2 0, hive 3 0, hive 4 0, hive 5 0]

def sixAsked : Survey Nat := ⟨sixHives, 5, .forwarded, fun _ _ => true⟩

/-- The two answers in time are told in every execution, within what the first metastore is allowed,
and each group once. -/
theorem lossless_awaited_six :
    (∀ items elapsed, Returns ((sixHives.zip sixOutcomes).map sixAsked.awaited) items elapsed →
      items.Perm ["bees", "ants", "bees"] ∧ elapsed ≤ 8) ∧
    (sixAsked.ask sixClients (sixHives.map fun b =>
      (⟨b, .setGroups "ann" [], id⟩ : Question Nat String))).items.Perm ["bees", "ants", "bees"] ∧
    (sixAsked.setGroups sixClients "ann" []).items.Perm ["bees", "ants"] := by
  obtain ⟨hlossless, -, -, hask, hgroups⟩ := lossless_awaited (α := String) sixAsked
  refine ⟨fun items elapsed h => ?_, ?_, ?_⟩
  · exact ⟨(hlossless _).items items elapsed h, (hlossless _).inTime items elapsed h⟩
  · exact (hask sixClients _).2.1
  · obtain ⟨-, hnodup, hmem⟩ := hgroups sixClients "ann" []
    refine (List.perm_ext_iff_of_nodup hnodup (by decide)).mpr fun group => (hmem group).trans ?_
    constructor
    · rintro ⟨b, hb, time, answer, hanswers, hinTime, hgroup⟩
      simp only [sixHives, sixAsked, List.mem_cons, List.not_mem_nil, or_false] at hb
      rcases hb with rfl | rfl | rfl | rfl | rfl | rfl <;> cases hanswers
      · exact hgroup
      · obtain rfl := List.mem_singleton.mp hgroup
        exact List.mem_cons_self
      · exact absurd hinTime (by decide)
    · intro hgroup
      exact ⟨hive 0 3, List.mem_cons_self, 7, _, rfl, by decide, hgroup⟩

end MetastoreFederation.Survey
