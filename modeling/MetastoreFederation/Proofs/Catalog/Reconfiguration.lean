import MetastoreFederation.Catalog
import MetastoreFederation.Proofs.Routing.Definitions
import MetastoreFederation.Proofs.Routing.Effects
import MetastoreFederation.Proofs.Survey.Reach

/-!
What a change of one metastore leaves as it is. Names that the metastore claims neither before nor
after the change are served as before, and of a pattern each other metastore is asked for the same
share.
-/

set_option autoImplicit false
set_option relaxedAutoImplicit false

namespace MetastoreFederation

open Metastore Routing Text
open Pattern.Decompose (partFor? share? shares isPassthrough)

variable {κ : Type}

/-- The entry that an event brings in. -/
def Event.newcomer? : Event → Option Entry
  | .register e => some e
  | .update _ e => some e
  | .unregister _ => none

/-- The name of the metastore that an event takes away. -/
def Event.displaced? : Event → Option String
  | .register _ => none
  | .update old _ => some old
  | .unregister name => some name

namespace Routing

section Claimants

variable {resolution : Resolution} {bindings others : List (Binding κ)} {b : Binding κ}
  {database : String} {result : Except RoutingError (Binding κ)}

/-- A metastore with the definition claims the name, by its prefix or by its list. -/
def ClaimedBy (resolution : Resolution) (d : Definition) (database : String) : Prop :=
  match resolution with
  | .prefixed => d.databasePrefix ≠ "" ∧ AsciiCase.Begins d.databasePrefix database
  | .manual => Lowercase.lower database ∈ listedOf d

theorem claims_iff_claimedBy
    (hlead : b.databasePrefix = Binding.prefixUnder resolution b.definition) :
    Claims resolution b database ↔ ClaimedBy resolution b.definition database := by
  unfold Claims ClaimedBy
  cases resolution with
  | prefixed =>
    rw [hlead]
    rfl
  | manual =>
    unfold listedOf Binding.isPrimary
    cases b.definition.isPrimary with
    | true => simp
    | false => simp [List.mem_map]

instance (resolution : Resolution) (b : Binding κ) (database : String) :
    Decidable (Claims resolution b database) :=
  match resolution with
  | .prefixed => inferInstanceAs (Decidable (_ ∧ _))
  | .manual => inferInstanceAs (Decidable (_ ∧ ∃ _ ∈ _, _))

/-- The bindings that claim a name, in their order. -/
def claimants (resolution : Resolution) (bindings : List (Binding κ)) (database : String) :
    List (Binding κ) :=
  bindings.filter fun b => Claims resolution b database

theorem mem_claimants_iff :
    b ∈ claimants resolution bindings database ↔ b ∈ bindings ∧ Claims resolution b database := by
  unfold claimants
  rw [List.mem_filter, decide_eq_true_iff]

/-- The owner is found among those that claim the name. -/
theorem owns_claimants_iff :
    Owns resolution (claimants resolution bindings database) database b ↔
      Owns resolution bindings database b := by
  cases resolution with
  | manual =>
    unfold Owns
    simp only [mem_claimants_iff]
    exact ⟨fun h => ⟨h.1.1, h.2.1, fun c hc hclaims => h.2.2 c ⟨hc, hclaims⟩ hclaims⟩,
      fun h => ⟨⟨h.1, h.2.1⟩, h.2.1, fun c hc => h.2.2 c hc.1⟩⟩
  | prefixed =>
    constructor
    · rintro ⟨front, back, hsplit, hclaims, hfront, hback⟩
      obtain ⟨before, rest, rfl, rfl, hrest⟩ := List.filter_eq_append_iff.mp hsplit
      obtain ⟨skipped, after, rfl, hskipped, -, rfl⟩ := List.filter_eq_cons_iff.mp hrest
      refine ⟨before ++ skipped, after, (List.append_assoc ..).symm, hclaims, ?_, ?_⟩
      · intro c hc hcclaims
        rcases List.mem_append.mp hc with hin | hin
        · exact hfront c (mem_claimants_iff.mpr ⟨hin, hcclaims⟩) hcclaims
        · exact absurd (decide_eq_true hcclaims) (hskipped c hin)
      · intro c hc hcclaims
        exact hback c (mem_claimants_iff.mpr ⟨hc, hcclaims⟩) hcclaims
    · rintro ⟨before, after, rfl, hclaims, hbefore, hafter⟩
      refine ⟨claimants .prefixed before database, claimants .prefixed after database, ?_, hclaims,
        fun c hc => hbefore c (mem_claimants_iff.mp hc).1,
        fun c hc => hafter c (mem_claimants_iff.mp hc).1⟩
      unfold claimants
      rw [List.filter_append, List.filter_cons, if_pos (decide_eq_true hclaims)]

/-- What a scan comes to is a matter of those that claim the name, and of the primary. -/
theorem scan_of_claimants_eq
    (hclaimants : claimants resolution others database = claimants resolution bindings database)
    (hprimaries : others.filter Binding.isPrimary = bindings.filter Binding.isPrimary)
    (hscan : Scan resolution bindings database result) :
    Scan resolution others database result := by
  have hunclaimed (h : ∀ c ∈ bindings, ¬ Claims resolution c database) :
      ∀ c ∈ others, ¬ Claims resolution c database := by
    intro c hc hclaims
    have hmem := mem_claimants_iff.mpr ⟨hc, hclaims⟩
    rw [hclaimants] at hmem
    exact h c (mem_claimants_iff.mp hmem).1 hclaims
  have hprimary (c : Binding κ) :
      c ∈ others ∧ c.isPrimary = true ↔ c ∈ bindings ∧ c.isPrimary = true := by
    rw [← List.mem_filter, hprimaries, List.mem_filter]
  cases hscan with
  | owner howns =>
    rw [← owns_claimants_iff, ← hclaimants, owns_claimants_iff] at howns
    exact .owner howns
  | primary hnone hb hrole =>
    exact .primary (hunclaimed hnone) ((hprimary _).mpr ⟨hb, hrole⟩).1 hrole
  | none hnone hfederated =>
    refine .none (hunclaimed hnone) fun c hc => Bool.eq_false_iff.mpr fun hrole => ?_
    have hc' := ((hprimary c).mp ⟨hc, hrole⟩).1
    exact Bool.false_ne_true ((hfederated c hc').symm.trans hrole)

end Claimants

namespace Table

variable {create : Factory κ} {t u : Table κ} {event : Event} {b : Binding κ}

/-- What has a property stays in its place, if neither what the event brings in nor what it takes
away has it. -/
theorem filter_notify (h : t.notify create event = .ok u) {p : Binding κ → Bool}
    (hnewcomer : ∀ e ∈ event.newcomer?, ∀ b, t.registry.bind create e = .ok b → p b = false)
    (hdisplaced : ∀ b ∈ t.bindings, event.displaced? = some b.name → p b = false) :
    u.bindings.filter p = t.bindings.filter p := by
  cases event with
  | register e =>
    rcases of_notify_register h with ⟨-, -, -, rfl⟩ | ⟨-, b, hbind, rfl⟩
    · rfl
    · have hb : [b].filter p = [] := by
        rw [List.filter_cons, hnewcomer e rfl b hbind]
        rfl
      rw [bindings_publish, List.filter_append, hb, List.append_nil]
  | update old e =>
    obtain ⟨-, b, -, -, hbind, rfl⟩ := of_notify_update h
    have hb := hnewcomer e rfl b hbind
    rw [bindings_publish]
    generalize t.bindings = bindings at hdisplaced
    induction bindings with
    | nil => rfl
    | cons c bindings ih =>
      obtain ⟨hc, hdisplaced⟩ := List.forall_mem_cons.mp hdisplaced
      rw [List.map_cons, List.filter_cons, List.filter_cons, ih hdisplaced]
      by_cases hname : c.name = old
      · rw [if_pos hname, hb, hc (congrArg some hname.symm)]
        rfl
      · rw [if_neg hname]
  | unregister name =>
    obtain ⟨-, -, -, rfl⟩ := of_notify_unregister h
    rw [bindings_publish, List.filter_filter]
    refine List.filter_congr fun c hc => ?_
    by_cases hname : c.name = name
    · rw [hdisplaced c hc (congrArg some hname.symm), Bool.false_and]
    · rw [bne_iff_ne.mpr hname, Bool.and_true]

theorem mem_bindings_of_notify (h : t.notify create event = .ok u) (hb : b ∈ t.bindings)
    (hspared : event.displaced? ≠ some b.name) : b ∈ u.bindings := by
  cases event with
  | register e =>
    rcases of_notify_register h with ⟨-, -, -, rfl⟩ | ⟨-, c, -, rfl⟩
    · exact hb
    · exact List.mem_append_left _ hb
  | update old e =>
    obtain ⟨-, c, -, -, -, rfl⟩ := of_notify_update h
    have hname : b.name ≠ old := fun heq => hspared (congrArg some heq.symm)
    exact List.mem_map.mpr ⟨b, hb, if_neg hname⟩
  | unregister name =>
    obtain ⟨-, -, -, rfl⟩ := of_notify_unregister h
    have hname : b.name ≠ name := fun heq => hspared (congrArg some heq.symm)
    exact List.mem_filter.mpr ⟨hb, bne_iff_ne.mpr hname⟩

/-- A federated metastore never takes the place of the primary, nor can the primary be removed. -/
theorem isPrimary_eq_false_of_displaced (hcoherent : t.registry.Coherent)
    (h : t.notify create event = .ok u)
    (hfederated : ∀ e ∈ event.newcomer?, e.definition.isPrimary = false) (hb : b ∈ t.bindings)
    (hdisplaced : event.displaced? = some b.name) : b.isPrimary = false := by
  obtain ⟨s, hchange, -⟩ := notify_eq_ok_iff.mp h
  cases event with
  | register e => cases hdisplaced
  | update old e =>
    obtain rfl := Option.some.inj hdisplaced
    obtain ⟨c, hfind, hrole, -⟩ := Registry.update_eq_ok_iff.mp hchange
    obtain rfl := Option.some.inj (hfind.symm.trans (hcoherent.find?_eq_some_iff.mpr ⟨hb, rfl⟩))
    exact (congrArg Role.isPrimary hrole).trans (hfederated e rfl)
  | unregister name =>
    obtain rfl := Option.some.inj hdisplaced
    obtain ⟨c, hfind, hrole, -⟩ := Registry.unregister_eq_ok_iff.mp hchange
    obtain rfl := Option.some.inj (hfind.symm.trans (hcoherent.find?_eq_some_iff.mpr ⟨hb, rfl⟩))
    exact hrole

end Table

/-- The table after an event, which it may refuse. -/
def Table.told (create : Factory κ) (t : Table κ) (event : Event) : Table κ :=
  (t.notify create event).toOption.getD t

/-- Neither the metastore that an event brings in nor the one that it takes away claims the name. -/
structure Spares (event : Event) (t : Table κ) (database : String) : Prop where
  newcomer : ∀ e ∈ event.newcomer?, ¬ ClaimedBy t.resolution e.definition database
  displaced : ∀ b ∈ t.bindings, event.displaced? = some b.name →
    ¬ ClaimedBy t.resolution b.definition database

theorem Table.serving_notify {create : Factory κ} {t u : Table κ} {event : Event}
    {database : String} (hcoherent : t.registry.Coherent) (h : t.notify create event = .ok u)
    (hfederated : ∀ e ∈ event.newcomer?, e.definition.isPrimary = false)
    (hspares : Spares event t database) :
    u.registry.snapshot.serving u.resolution database =
      t.registry.snapshot.serving t.resolution database := by
  have hclaimants : claimants t.resolution u.bindings database =
      claimants t.resolution t.bindings database := by
    refine filter_notify h (fun e he b hbind => ?_) fun b hb hdisplaced => ?_
    · obtain ⟨hdefinition, hlead⟩ := Registry.bind_eq_ok hbind
      refine decide_eq_false fun hclaims => hspares.newcomer e he ?_
      rw [← hdefinition]
      exact (claims_iff_claimedBy hlead).mp hclaims
    · refine decide_eq_false fun hclaims => hspares.displaced b hb hdisplaced ?_
      exact (claims_iff_claimedBy (hcoherent.databasePrefix b hb)).mp hclaims
  have hprimaries : u.bindings.filter Binding.isPrimary = t.bindings.filter Binding.isPrimary := by
    refine filter_notify h (fun e he b hbind => ?_) fun b hb hdisplaced => ?_
    · exact (congrArg Definition.isPrimary (Registry.bind_eq_ok hbind).1).trans (hfederated e he)
    · exact isPrimary_eq_false_of_displaced hcoherent h hfederated hb hdisplaced
  have hresolution := resolution_notify h
  have hscan := (hcoherent.serving_eq_iff_scan database _).mp rfl
  refine ((coherent_notify hcoherent h).serving_eq_iff_scan database _).mpr ?_
  change Scan u.resolution u.bindings database _
  rw [hresolution]
  exact scan_of_claimants_eq hclaimants hprimaries hscan

end Routing

section Shares

open Pattern.Decompose

/-- Where no prefix is listed twice, the part of one is not a matter of the others. -/
theorem Pattern.Decompose.partFor?_eq_singleton {prefixes : List String} {start : String}
    (hnodup : prefixes.Nodup) (hstart : start ∈ prefixes) (pattern : String) :
    partFor? prefixes pattern start = partFor? [start] pattern start := by
  have hlisted : prefixes.filter (· == start) = [start].filter (· == start) := by
    rw [List.filter_beq, List.count_eq_one_of_mem hnodup hstart, List.filter_beq,
      List.count_singleton_self]
  unfold partFor? share? shares
  rw [hlisted]

/-- What a metastore is asked for is not a matter of the others. -/
theorem Catalog.mem_reached_survey_iff {t : Table κ} (hcoherent : t.registry.Coherent)
    (statuses : StatusBoard) (timeout : Nat) {pattern part : String} {b : Binding κ} :
    (b, part) ∈ (survey statuses timeout t).1.reached pattern ↔
      b ∈ t.available statuses ∧ match t.resolution with
        | .prefixed => partFor? [b.databasePrefix] pattern b.databasePrefix = some part
        | .manual => part = pattern := by
  let v := (survey statuses timeout t).1
  cases hresolution : t.resolution with
  | manual =>
    have hscope : v.scope = .forwarded := congrArg Survey.Scope.under hresolution
    exact Survey.mem_reached_of_forwarded hscope
  | prefixed =>
    have hscope : v.scope = .decomposed := congrArg Survey.Scope.under hresolution
    have hsublist : v.bindings.Sublist t.bindings := List.filter_sublist
    have hnodup : (v.bindings.map Binding.databasePrefix).Nodup :=
      (hcoherent.nodup_prefixes hresolution).sublist (hsublist.map _)
    rw [Survey.mem_reached_of_decomposed hscope]
    refine and_congr_right fun hb => ?_
    rw [partFor?_eq_singleton hnodup (List.mem_map_of_mem hb)]

end Shares

namespace Catalog

/-- A table goes on serving names that are none of a metastore's business, and asks the other
metastores for what it asked them for. -/
structure Unchanged (event : Event) (t u : Table κ) : Prop where
  created : u.created = t.created
  serving : ∀ database, Spares event t database →
    u.registry.snapshot.serving u.resolution database =
      t.registry.snapshot.serving t.resolution database
  resolved : ∀ name, Spares event t (Pattern.Qualifier.strip name) →
    (u.resolve name).map Prod.fst = (t.resolve name).map Prod.fst
  registered : ∀ b ∈ t.bindings, event.displaced? ≠ some b.name → b ∈ u.bindings
  reached : ∀ b ∈ t.bindings, event.displaced? ≠ some b.name →
    ∀ statuses timeout pattern part,
      (b, part) ∈ (survey statuses timeout u).1.reached pattern ↔
        (b, part) ∈ (survey statuses timeout t).1.reached pattern

theorem Unchanged.refl (event : Event) (t : Table κ) : Unchanged event t t :=
  ⟨rfl, fun _ _ => rfl, fun _ _ => rfl, fun _ hb _ => hb, fun _ _ _ _ _ _ _ => .rfl⟩

theorem map_fst_resolve (t : Table κ) (name : String) :
    (t.resolve name).map Prod.fst =
      t.registry.snapshot.serving t.resolution (Pattern.Qualifier.strip name) := by
  unfold Table.resolve
  cases t.registry.snapshot.serving t.resolution (Pattern.Qualifier.strip name) with
  | ok b => rfl
  | error e => rfl

theorem unchanged_of_notify {create : Factory κ} {t u : Table κ} {event : Event}
    (hcoherent : t.registry.Coherent) (h : t.notify create event = .ok u)
    (hfederated : ∀ e ∈ event.newcomer?, e.definition.isPrimary = false) :
    Unchanged event t u where
  created := Table.created_notify h
  serving _ hspares := Table.serving_notify hcoherent h hfederated hspares
  resolved name hspares := by
    rw [map_fst_resolve, map_fst_resolve]
    exact Table.serving_notify hcoherent h hfederated hspares
  registered _ hb hspared := Table.mem_bindings_of_notify h hb hspared
  reached b hb hspared statuses timeout pattern part := by
    have hu : b ∈ u.bindings := Table.mem_bindings_of_notify h hb hspared
    rw [mem_reached_survey_iff hcoherent,
      mem_reached_survey_iff (Table.coherent_notify hcoherent h), Table.resolution_notify h]
    unfold Table.available
    rw [List.mem_filter, List.mem_filter, and_iff_right hb, and_iff_right hu]

/-- After whatever changes, one more change of a federated metastore, successful or not, leaves
alone what is none of its business. -/
theorem unchanged_after_change (resolution : Resolution) (changes : List (Factory κ × Event))
    (created : CreatedBoard) (usage : Usage) (create : Factory κ) (event : Event)
    (hfederated : ∀ e ∈ event.newcomer?, e.definition.isPrimary = false) :
    let t : Table κ := ⟨.history resolution changes, created, usage⟩
    Unchanged event t (t.told create event) := by
  intro t
  have hcoherent : t.registry.Coherent := Registry.coherent_history resolution changes
  unfold Table.told
  cases hnotify : t.notify create event with
  | error cause => exact .refl event t
  | ok u => exact unchanged_of_notify hcoherent hnotify hfederated

/-- A primary and two metastores, and an event that gives the second another name and prefix. -/
theorem unchanged_after_change_renamed :
    let changes : List (Factory Unit × Event) :=
      [.register ⟨0, { name := "primary", role := .primary, addresses := "a" }⟩,
        .register ⟨1, { name := "waggle", addresses := "b" }⟩,
        .register ⟨2, { name := "bee", addresses := "c" }⟩].map
          fun event => (fun _ => .ok (), event)
    let event : Event := .update "waggle" ⟨3, { name := "wasp", addresses := "b" }⟩
    let t : Table Unit := ⟨.history .prefixed changes, .empty, .empty⟩
    (∀ e ∈ event.newcomer?, e.definition.isPrimary = false) ∧
      Unchanged event t (t.told (fun _ => .ok ()) event) ∧ Spares event t "bee_logs" ∧
      (t.told (fun _ => .ok ()) event).bindings.map Binding.name = ["primary", "wasp", "bee"] := by
  intro changes event t
  have hfederated : ∀ e ∈ event.newcomer?, e.definition.isPrimary = false := by
    rintro e he
    obtain rfl := Option.some.inj he
    rfl
  have hdefinitions : t.bindings.map (fun b => (b.name, b.definition.databasePrefix)) =
      [("primary", ""), ("waggle", "waggle_"), ("bee", "bee_")] := by decide
  have hfree : ∀ d ∈ t.bindings.map (fun b => (b.name, b.definition.databasePrefix)),
      d.1 = "waggle" → ¬ AsciiCase.Begins d.2 "bee_logs" := by
    rw [hdefinitions]
    decide
  refine ⟨hfederated, unchanged_after_change .prefixed changes .empty .empty _ event hfederated,
    ⟨?_, ?_⟩, by decide⟩
  · rintro e he ⟨-, hbegins⟩
    obtain rfl := Option.some.inj he
    exact absurd hbegins (by decide)
  · rintro b hb hdisplaced ⟨-, hbegins⟩
    exact hfree _ (List.mem_map_of_mem hb) (Option.some.inj hdisplaced).symm hbegins

end Catalog

end MetastoreFederation
