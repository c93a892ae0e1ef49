import MetastoreFederation.Proofs.Federation.Watching

/-!
The operations of a federation as courses. Each operation takes a federation from one moment to
another through things that can happen, so whatever holds of all courses holds of a federation, in
whatever order it is operated on. What happens is what the operation asks for and what is due while
someone waits for it.
-/

set_option autoImplicit false
set_option relaxedAutoImplicit false

namespace MetastoreFederation.Federation

open Metastore Request Routing Health
open Administration (Plan Request)

variable {κ : Type}

section Serving

variable {α : Type} {t : Table κ} {clients : κ → Client}

/-- A request on one database keeps of the table what neither its use nor the request changes. -/
theorem kept_serve {β : Type} (part : Table κ → β) {database : String} {table : Option String}
    {access : Access} {next : Binding κ → Table κ → Catalog.Served κ α}
    (huse : ∀ u b, part (u.countUse b) = part u) (hnext : ∀ b u, part (next b u).table = part u) :
    part (Catalog.serve t database table access next).table = part t := by
  unfold Catalog.serve
  split
  · rfl
  · next b u hresolve =>
    obtain ⟨-, rfl⟩ := Table.resolve_eq_ok_iff.mp hresolve
    split
    · exact huse t b
    · exact (hnext b _).trans (huse t b)

theorem registry_createDatabase (database : String) (payload : Document.Datum) :
    (Catalog.createDatabase clients t database payload).table.registry = t.registry := by
  unfold Catalog.createDatabase
  split
  · rfl
  · next b u hresolve =>
    have hsame : u.registry = t.registry := by
      unfold Table.resolvePrimary at hresolve
      split at hresolve <;> cases hresolve
      rfl
    split
    · exact hsame
    · dsimp only
      let name := b.inbound (Pattern.Qualifier.strip database)
      let served := Catalog.forward clients u b (.execute (Catalog.creation name payload)) id
      have hserved : served.table.registry = t.registry := hsame
      rcases served.outcome with ⟨time, cause | answer⟩ | time | _
      all_goals exact hserved

end Serving

/-- What can be asked of a federation. -/
inductive Operation (κ : Type)
  | change (create : Factory κ) (request : Administration.Request)
  | get (s : Surroundings κ) (name : String)
  | getAll (s : Surroundings κ)
  | allTables (s : Surroundings κ) (database : String)
  | execute (s : Surroundings κ) (request : Request.Operation)
  | createDatabase (s : Surroundings κ) (database : String) (payload : Document.Datum)
  | allDatabases (s : Surroundings κ)
  | databases (s : Surroundings κ) (pattern : Option String)
  | tableMeta (s : Surroundings κ) (databasePattern tablePattern : String) (types : List String)
  | setGroups (s : Surroundings κ) (user : String) (groups : List String)
  | wait (s : Surroundings κ) (duration : Nat)
  | startPolling
  | stop (s : Surroundings κ)

/-- The federation after an operation. -/
def operate (f : Federation κ) : Operation κ → Federation κ
  | .change create request => f.changed (f.administration.ask (Table.notify create) request)
  | .get s name => (f.get s name).after
  | .getAll s => (f.getAll s).after
  | .allTables s database => (f.serve s fun k t => Catalog.allTables k t database).after
  | .execute s request => (f.serve s fun k t => Catalog.execute k t request).after
  | .createDatabase s database payload =>
    (f.serve s fun k t => Catalog.createDatabase k t database payload).after
  | .allDatabases s => (f.survey s fun k v => v.allDatabases k).after
  | .databases s pattern => (f.survey s fun k v => v.databases k pattern).after
  | .tableMeta s databasePattern tablePattern types =>
    (f.survey s fun k v => v.tableMeta k databasePattern tablePattern types).after
  | .setGroups s user groups => (f.survey s fun k v => v.setGroups k user groups).after
  | .wait s duration => f.sleep s duration
  | .startPolling => f.startPolling
  | .stop s => f.stop s

/-- What there is to come for a federation. -/
def outlook (f : Federation κ) : Outlook := .current f.watch

section Entailed

variable (f : Federation κ)

/-- A request is served by the routing table, and then time passes until the answer is there. -/
def Uses (s : Surroundings κ) (trace : List Happening) (g : Federation κ) : Prop :=
  ∃ later, trace = .used :: later ∧ f.outlook.Passes s.probe f.deadline later g.outlook

/-- What an operation brings about: the changes and the probes that it asks for, and what is due in
the time that passes. The answers of all these probes are those of the surroundings. -/
def Entails (g : Federation κ) : Operation κ → List Happening → Prop
  | .change _ request, trace =>
    (trace = [] ∧ g = f) ∨
      ∃ plan, f.administration.Plans request plan ∧ trace = [.begun plan.newcomer?, .ended] ∧
        g.outlook = { f.outlook with inventory := g.inventory }
  | .get s name, trace =>
    (f.inventory.find? name = none ∧ trace = [] ∧ g = f) ∨
      ∃ e, f.inventory.find? name = some e ∧
        f.outlook.Awaits s.probe f.deadline s.patience e trace g.outlook
  | .getAll s, trace =>
    f.outlook.Refreshes s.probe f.deadline s.patience f.inventory.entries trace g.outlook
  | .wait s duration, trace =>
    f.outlook.Passes s.probe f.deadline trace g.outlook ∧
      g.outlook.now = f.outlook.now + duration
  | .startPolling, trace =>
    (f.watch.polling ≠ none ∧ trace = [] ∧ g = f) ∨
      (f.watch.polling = none ∧ ∃ o : Outlook, f.outlook.Halts trace o ∧
        let interval := f.settings.pollingInterval.millis
        g.outlook =
          { o with polling := if interval = 0 then none else some ⟨interval, o.now, 0⟩ })
  | .stop s, trace =>
    (f.watch.polling = none ∧ trace = [] ∧ g = f) ∨
      (f.watch.polling ≠ none ∧ ∃ lost later o, trace = lost ++ later ∧ f.outlook.Halts lost o ∧
        o.Passes s.probe f.deadline later g.outlook ∧ g.outlook.now = f.outlook.now ∧
        g.outlook.Ahead)
  | .allTables s _, trace | .execute s _, trace | .createDatabase s _ _, trace
  | .allDatabases s, trace | .databases s _, trace | .tableMeta s _ _ _, trace
  | .setGroups s _ _, trace => f.Uses s trace g

end Entailed

/-- What operations bring about, one after another. -/
inductive Unfolds : Federation κ → List (Operation κ) → List Happening → Prop
  | nil {f : Federation κ} : Unfolds f [] []
  | cons {f : Federation κ} {operation : Operation κ} {operations : List (Operation κ)}
      {first later : List Happening} (entails : f.Entails (f.operate operation) operation first)
      (unfolds : Unfolds (f.operate operation) operations later) :
      Unfolds f (operation :: operations) (first ++ later)

/-- A federation to which something can happen: no identity was given that is to be given next, and
nothing is overdue. -/
structure Ready (f : Federation κ) : Prop where
  fresh : f.inventory.Fresh
  timely : f.outlook.Timely

/-- Nothing is overdue over an inventory to which nothing has happened. -/
theorem timely_ofInventory (i : Inventory) : (Outlook.current (.ofInventory i)).Timely :=
  ⟨fun _ hf => absurd hf (Multiset.notMem_zero _), nofun⟩

/-- An operation goes on beside the administration: the same metastores are registered and in the
inventory. -/
structure Undisturbed (f : Federation κ) (trace : List Happening) (g : Federation κ) : Prop where
  course : f.inventory.Fresh → f.moment.Course trace g.moment
  settings : g.settings = f.settings
  registry : g.table.registry = f.table.registry
  entries : g.inventory.entries = f.inventory.entries
  nextId : g.inventory.nextId = f.inventory.nextId
  timely : f.outlook.Timely → g.outlook.Timely

variable {f g : Federation κ} {trace later : List Happening}

namespace Undisturbed

theorem refl (f : Federation κ) : f.Undisturbed [] f := ⟨fun _ => .refl, rfl, rfl, rfl, rfl, id⟩

theorem ready (h : f.Undisturbed trace g) (hready : f.Ready) : g.Ready := by
  refine ⟨?_, h.timely hready.timely⟩
  unfold Inventory.Fresh
  rw [h.entries, h.nextId]
  exact hready.fresh

theorem of_onward {w : Watch} (h : f.outlook.Onward trace (.current w)) :
    f.Undisturbed trace { f with watch := w } :=
  ⟨fun hfresh => h.course hfresh f.settings.resolution f.table, rfl, rfl, h.entries, h.nextId,
    h.timely⟩

theorem of_used {t : Table κ} (hsame : t.registry = f.table.registry) {w : Watch}
    (h : f.outlook.Onward later (.current w)) :
    f.Undisturbed (.used :: later) { f with table := t, watch := w } :=
  ⟨fun hfresh => (Moment.Step.uses hsame).course.trans (h.course hfresh f.settings.resolution t),
    rfl, hsame, h.entries, h.nextId, h.timely⟩

end Undisturbed

section Asked

variable {create : Factory κ} {request : Administration.Request}

/-- After a change the inventory is the planned one, since nothing came in between. -/
theorem entries_meanwhile {σ : Type} {a : Administration σ} {plan : Plan}
    (hplan : a.Plans request plan) :
    { plan.meanwhile with entries := plan.made.entries } = plan.made ∧
      { plan.meanwhile with entries := plan.kept.entries } = plan.kept := by
  cases hplan <;> exact ⟨rfl, rfl⟩

theorem course_asked (hasked : f.Asked create request g) :
    ∃ trace, f.moment.Course trace g.moment ∧ f.Entails g (.change create request) trace := by
  cases hasked with
  | idle => exact ⟨[], .refl, .inl ⟨rfl, rfl⟩⟩
  | @refused plan cause plans refuses =>
    let p : Moment κ := { f.moment with inventory := plan.meanwhile, change := some plan }
    have hbegun := (@Moment.Step.begins κ f.moment request plan rfl plans).course
    have hended := @Moment.Step.refused κ p plan create cause rfl refuses
    change p.Step .ended
      { f.moment with inventory := { plan.meanwhile with entries := plan.kept.entries } } at hended
    rw [(entries_meanwhile plans).2] at hended
    exact ⟨_, hbegun.tail hended, .inr ⟨plan, plans, rfl, rfl⟩⟩
  | @made plan t plans takes =>
    let p : Moment κ := { f.moment with inventory := plan.meanwhile, change := some plan }
    have hbegun := (@Moment.Step.begins κ f.moment request plan rfl plans).course
    have hended := @Moment.Step.accepted κ p plan create t rfl takes
    change p.Step .ended
      { f.moment with
        table := t
        inventory := { plan.meanwhile with entries := plan.made.entries } } at hended
    rw [(entries_meanwhile plans).1] at hended
    exact ⟨_, hbegun.tail hended, .inr ⟨plan, plans, rfl, rfl⟩⟩

theorem Ready.asked (hready : f.Ready) (hasked : f.Asked create request g) : g.Ready := by
  have htimely := hready.timely
  cases hasked with
  | idle => exact hready
  | refused plans => exact ⟨(plans.fresh hready.fresh).1, htimely.underway, htimely.polling⟩
  | made plans => exact ⟨(plans.fresh hready.fresh).2, htimely.underway, htimely.polling⟩

theorem Asked.settings (hasked : f.Asked create request g) : g.settings = f.settings := by
  cases hasked <;> rfl

end Asked

section Undisturbed

theorem undisturbed_get (s : Surroundings κ) (name : String) (hready : f.Ready) :
    ∃ trace, f.Undisturbed trace (f.get s name).after ∧
      f.Entails (f.get s name).after (.get s name) trace := by
  unfold get
  split
  · next hnone => exact ⟨[], .refl f, .inl ⟨hnone, rfl, rfl⟩⟩
  · next e hfind =>
    obtain ⟨trace, hawaits⟩ :=
      Outlook.awaits_refreshOne hready.timely s.probe f.deadline s.patience e
    have honward := hawaits.onward (Inventory.mem_of_find? hfind).1
    exact ⟨trace, .of_onward honward, .inr ⟨e, hfind, hawaits⟩⟩

theorem undisturbed_getAll (s : Surroundings κ) (hready : f.Ready) :
    ∃ trace, f.Undisturbed trace (f.getAll s).after ∧
      f.Entails (f.getAll s).after (.getAll s) trace := by
  obtain ⟨trace, hrefreshes⟩ := Outlook.refreshes_refreshAll hready.timely
    (fun e (he : e ∈ f.inventory.entries) => he) s.probe f.deadline s.patience
  exact ⟨trace, .of_onward (hrefreshes.onward fun _ he => he), hrefreshes⟩

theorem undisturbed_sleep (s : Surroundings κ) (hready : f.Ready) (duration : Nat) :
    ∃ trace, f.Undisturbed trace (f.sleep s duration) ∧
      f.Entails (f.sleep s duration) (.wait s duration) trace := by
  obtain ⟨trace, hpasses⟩ := Outlook.passes_sleep hready.timely s.probe f.deadline duration
  exact ⟨trace, .of_onward hpasses.onward, hpasses, Outlook.now_sleep f.watch duration⟩

/-- A use of the routing table that leaves the registry as it is, and a while to wait. -/
theorem undisturbed_used {t : Table κ} {w : Watch} (s : Surroundings κ)
    (hsame : t.registry = f.table.registry)
    (h : ∃ later, f.outlook.Passes s.probe f.deadline later (.current w)) :
    ∃ trace, f.Undisturbed trace { f with table := t, watch := w } ∧
      f.Uses s trace { f with table := t, watch := w } := by
  obtain ⟨later, hpasses⟩ := h
  exact ⟨_, .of_used hsame hpasses.onward, later, rfl, hpasses⟩

theorem undisturbed_serve {α : Type} (s : Surroundings κ) (hready : f.Ready)
    {request : (κ → Client) → Table κ → Catalog.Served κ α}
    (hrequest : ∀ k t, (request k t).table.registry = t.registry) :
    ∃ trace, f.Undisturbed trace (f.serve s request).after ∧
      f.Uses s trace (f.serve s request).after := by
  have hserved := hrequest (fun k => (s.clients k).within s.patience) f.table
  unfold serve
  dsimp only
  split
  · exact undisturbed_used s hserved (Outlook.passes_sleep hready.timely s.probe f.deadline _)
  · exact undisturbed_used s hserved (Outlook.passes_sleep hready.timely s.probe f.deadline _)

theorem undisturbed_survey {α : Type} (s : Surroundings κ) (hready : f.Ready)
    (request : (κ → Client) → Survey κ → Survey.Report κ α) :
    ∃ trace, f.Undisturbed trace (f.survey s request).after ∧
      f.Uses s trace (f.survey s request).after := by
  unfold survey Catalog.survey
  dsimp only
  split_ifs
  · exact undisturbed_used s rfl (Outlook.passes_sleep hready.timely s.probe f.deadline _)
  · exact undisturbed_used s rfl ⟨[], .refl⟩
  · obtain ⟨later, hpasses, -⟩ := Outlook.passes_join hready.timely s.probe f.deadline _
    exact undisturbed_used s rfl ⟨later, hpasses⟩

theorem undisturbed_startPolling (f : Federation κ) :
    ∃ trace, f.Undisturbed trace f.startPolling ∧ f.Entails f.startPolling .startPolling trace := by
  unfold startPolling
  split
  · next p hpolling => exact ⟨[], .refl f, .inl ⟨by simp [hpolling], rfl, rfl⟩⟩
  · next hnone =>
    obtain ⟨trace, hhalts⟩ := Outlook.halts_stopPolling f.watch
    have honward := hhalts.onward
    refine ⟨trace, .of_onward ⟨honward.course, rfl, rfl, fun htimely => ?_⟩,
      .inr ⟨hnone, _, hhalts, rfl⟩⟩
    refine ⟨(honward.timely htimely).underway, fun p hp => ?_⟩
    unfold Outlook.current Outlook.ofWatch Watch.startPolling at hp
    dsimp only at hp
    split_ifs at hp with hzero
    cases hp
    exact ⟨Nat.le_max_left .., Nat.pos_of_ne_zero hzero⟩

theorem undisturbed_stop (s : Surroundings κ) (hready : f.Ready) :
    ∃ trace, f.Undisturbed trace (f.stop s) ∧ f.Entails (f.stop s) (.stop s) trace := by
  unfold stop
  split
  · next hnone => exact ⟨[], .refl f, .inl ⟨hnone, rfl, rfl⟩⟩
  · next p hpolling =>
    obtain ⟨lost, hhalts⟩ := Outlook.halts_stopPolling f.watch
    have hstopped := hhalts.onward.timely hready.timely
    obtain ⟨later, hpasses, hahead⟩ := Outlook.passes_join hstopped s.probe f.deadline 0
    exact ⟨lost ++ later, .of_onward (hhalts.onward.trans hpasses.onward),
      .inr ⟨by simp [hpolling], lost, later, _, rfl, hhalts, hpasses, rfl, hahead⟩⟩

end Undisturbed

/-- An operation is a change that is asked for, or the metastores are undisturbed by it. -/
theorem operate_cases (hready : f.Ready) (operation : Operation κ) :
    (∃ create request, operation = .change create request ∧
        f.Asked create request (f.operate operation)) ∨
      ∃ trace, f.Undisturbed trace (f.operate operation) ∧
        f.Entails (f.operate operation) operation trace := by
  cases operation with
  | change create request => exact .inl ⟨create, request, rfl, asked create f request⟩
  | get s name => exact .inr (undisturbed_get s name hready)
  | getAll s => exact .inr (undisturbed_getAll s hready)
  | allTables s database =>
    exact .inr (undisturbed_serve s hready fun _ _ =>
      kept_serve Table.registry (fun _ _ => rfl) fun _ _ => rfl)
  | execute s request =>
    exact .inr (undisturbed_serve s hready fun _ _ =>
      kept_serve Table.registry (fun _ _ => rfl) fun _ _ => rfl)
  | createDatabase s database payload =>
    exact .inr (undisturbed_serve s hready fun _ _ => registry_createDatabase database payload)
  | allDatabases s => exact .inr (undisturbed_survey s hready _)
  | databases s pattern => exact .inr (undisturbed_survey s hready _)
  | tableMeta s databasePattern tablePattern types => exact .inr (undisturbed_survey s hready _)
  | setGroups s user groups => exact .inr (undisturbed_survey s hready _)
  | wait s duration => exact .inr (undisturbed_sleep s hready duration)
  | startPolling => exact .inr (undisturbed_startPolling f)
  | stop s => exact .inr (undisturbed_stop s hready)

section Operated

variable (operation : Operation κ)

theorem Ready.operate (hready : f.Ready) : (f.operate operation).Ready := by
  rcases operate_cases hready operation with ⟨_, _, -, hasked⟩ | ⟨_, hundisturbed, -⟩
  · exact hready.asked hasked
  · exact hundisturbed.ready hready

theorem settings_operate (hready : f.Ready) : (f.operate operation).settings = f.settings := by
  rcases operate_cases hready operation with ⟨_, _, -, hasked⟩ | ⟨_, hundisturbed, -⟩
  · exact hasked.settings
  · exact hundisturbed.settings

theorem course_operate (hready : f.Ready) :
    ∃ trace, f.moment.Course trace (f.operate operation).moment ∧
      f.Entails (f.operate operation) operation trace := by
  rcases operate_cases hready operation with
    ⟨create, request, rfl, hasked⟩ | ⟨trace, hundisturbed, hentails⟩
  · exact course_asked hasked
  · exact ⟨trace, hundisturbed.course hready.fresh, hentails⟩

end Operated

theorem settings_operations (hready : f.Ready) (operations : List (Operation κ)) :
    (operations.foldl operate f).settings = f.settings := by
  induction operations generalizing f with
  | nil => rfl
  | cons operation operations ih =>
    exact (ih (hready.operate operation)).trans (settings_operate operation hready)

/-- Whatever is asked of a federation, a course leads to the moment at which it is then, and on this
course happens what the operations bring about. -/
theorem course_operations (hready : f.Ready) (operations : List (Operation κ)) :
    ∃ trace, f.moment.Course trace (operations.foldl operate f).moment ∧
      f.Unfolds operations trace := by
  induction operations generalizing f with
  | nil => exact ⟨[], .refl, .nil⟩
  | cons operation operations ih =>
    obtain ⟨first, hfirst, hentails⟩ := course_operate operation hready
    obtain ⟨later, hlater, hunfolds⟩ := ih (hready.operate operation)
    exact ⟨first ++ later, hfirst.trans hlater, .cons hentails hunfolds⟩

end MetastoreFederation.Federation
