import MetastoreFederation.Proofs.Basic
import MetastoreFederation.Proofs.Catalog.Forwarding
import MetastoreFederation.Proofs.Survey.Lookup

/-!
The qualifier of the default catalog in front of a name or a pattern. Requests on one database come
to the same with it and without it. So do listings where each metastore is asked for its share of
the pattern; where all are asked for the whole pattern, they are asked for it as it stands.
-/

set_option autoImplicit false
set_option relaxedAutoImplicit false

namespace MetastoreFederation

open Metastore Request Routing
open Pattern.Qualifier (strip defaultCatalog strip_append strip_eq_of_same)
open Pattern.Decompose (isPassthrough matchAll partFor?)

variable {κ : Type}

section Patterns

variable {qualifier pattern : String}

/-- What does not come to the sentinel goes to everybody as it stands only if it is a star. -/
theorem isPassthrough_iff (hname : strip pattern ≠ defaultCatalog) :
    isPassthrough pattern = true ↔ pattern = matchAll := by
  unfold isPassthrough
  rw [Bool.or_eq_true, beq_iff_eq, or_iff_left]
  exact fun hsame => hname (strip_eq_of_same hsame)

theorem not_isPassthrough_append (hqualifier : Text.AsciiCase.same qualifier defaultCatalog = true)
    (hname : strip pattern ≠ defaultCatalog) : isPassthrough (qualifier ++ pattern) = false := by
  rw [← strip_append hqualifier] at hname
  refine Bool.eq_false_iff.mpr fun hpass => hname ?_
  -- A star is shorter than a qualifier, which begins the whole pattern.
  have hstar := (isPassthrough_iff hname).mp hpass
  have hlength := congrArg List.length ((Text.AsciiCase.same_iff_map_eq ..).mp hqualifier)
  have hshort := congrArg (fun s => s.toList.length) hstar
  simp only [String.toList_append, List.length_append, List.length_map] at hlength hshort
  have hsix : defaultCatalog.toList.length = 6 := by decide
  have hone : matchAll.toList.length = 1 := by decide
  omega

/-- A qualifier changes nothing of what a metastore is asked for, but for a star at one whose prefix
is a star. -/
theorem partFor?_append {prefixes : List String} {start : String}
    (hqualifier : Text.AsciiCase.same qualifier defaultCatalog = true)
    (hname : strip pattern ≠ defaultCatalog) (hnodup : prefixes.Nodup) (hstart : start ∈ prefixes) :
    ((partFor? prefixes (qualifier ++ pattern) start).isSome =
        (partFor? prefixes pattern start).isSome) ∧
      ((pattern = matchAll → start ≠ matchAll) →
        partFor? prefixes (qualifier ++ pattern) start = partFor? prefixes pattern start) := by
  have hshare : partFor? prefixes (qualifier ++ pattern) start =
      Pattern.Decompose.share? prefixes pattern start := by
    unfold partFor? Pattern.Decompose.share?
    rw [not_isPassthrough_append hqualifier hname, strip_append hqualifier,
      if_neg Bool.false_ne_true]
  rw [hshare]
  unfold partFor?
  by_cases hstar : pattern = matchAll
  · subst hstar
    have hstrip : strip matchAll = matchAll := by decide
    rw [Pattern.Decompose.share?_of_strip_eq_star hstrip hnodup hstart,
      if_pos ((isPassthrough_iff hname).mpr rfl)]
    exact ⟨rfl, fun hother => by rw [if_neg (hother rfl)]⟩
  · rw [if_neg fun hpass => hstar ((isPassthrough_iff hname).mp hpass)]
    exact ⟨rfl, fun _ => rfl⟩

end Patterns

namespace Survey

variable {clients : κ → Client} {v : Survey κ} {qualifier name : String}

/-- A pattern with a qualifier reaches the same metastores as without it, each with the same share,
but for a star at a metastore whose prefix is a star. -/
theorem reached_append (hscope : v.scope = .decomposed)
    (hnodup : (v.bindings.map Binding.databasePrefix).Nodup)
    (hqualifier : Text.AsciiCase.same qualifier defaultCatalog = true)
    (hname : strip name ≠ defaultCatalog) :
    List.Forall₂ (fun r r' => r.1 = r'.1 ∧
        ((name = matchAll → r.1.databasePrefix ≠ matchAll) → r.2 = r'.2))
      (v.reached (qualifier ++ name)) (v.reached name) := by
  rw [reached_decomposed hscope, reached_decomposed hscope]
  have hparts (b : Binding κ) (hb : b ∈ v.bindings) :=
    partFor?_append hqualifier hname hnodup (List.mem_map_of_mem hb)
  refine forall₂_filterMap (fun b hb => ?_) fun b hb x y hx hy => ?_
  · rw [Option.isSome_map, Option.isSome_map]
    exact (hparts b hb).1
  · obtain ⟨part, hpart, rfl⟩ := Option.map_eq_some_iff.mp hx
    obtain ⟨part', hpart', rfl⟩ := Option.map_eq_some_iff.mp hy
    refine ⟨rfl, fun hother => Option.some.inj ?_⟩
    rw [← hpart, ← hpart']
    exact (hparts b hb).2 hother

theorem reached_append_eq (hscope : v.scope = .decomposed)
    (hnodup : (v.bindings.map Binding.databasePrefix).Nodup)
    (hqualifier : Text.AsciiCase.same qualifier defaultCatalog = true)
    (hname : strip name ≠ defaultCatalog)
    (hother : name = matchAll → ∀ b ∈ v.bindings, b.databasePrefix ≠ matchAll) :
    v.reached (qualifier ++ name) = v.reached name := by
  rw [reached_decomposed hscope, reached_decomposed hscope]
  refine List.filterMap_congr fun b hb => ?_
  have hpart := partFor?_append hqualifier hname hnodup (List.mem_map_of_mem hb)
  rw [hpart.2 fun hstar => hother hstar b hb]

end Survey

namespace Catalog

variable {create : Factory κ} {settings : Settings} {inventory : Inventory} {f : Federation κ}

/-- What a qualifier in front of a name or a pattern leaves as it is. -/
structure Transparent (clients : κ → Client) (t : Table κ) (v : Survey κ)
    (qualifier name : String) : Prop where
  allTables : allTables clients t (qualifier ++ name) = allTables clients t name
  execute : ∀ request : Operation,
    execute clients t { request with database := qualifier ++ name } =
      execute clients t { request with database := name }
  createDatabase : ∀ payload,
    createDatabase clients t (qualifier ++ name) payload = createDatabase clients t name payload
  /-- Where shares are asked for, these are the same, of the same metastores. A metastore whose
  prefix is a star takes a star for its prefix. -/
  shares : t.resolution = .prefixed → strip name ≠ defaultCatalog →
    List.Forall₂ (fun r r' => r.1 = r'.1 ∧
        ((name = matchAll → r.1.databasePrefix ≠ matchAll) → r.2 = r'.2))
      (v.reached (qualifier ++ name)) (v.reached name)
  listings : t.resolution = .prefixed → strip name ≠ defaultCatalog →
    (name = matchAll → ∀ b ∈ v.bindings, b.databasePrefix ≠ matchAll) →
      v.databases clients (some (qualifier ++ name)) = v.databases clients (some name) ∧
      ∀ tablePattern types, v.tableMeta clients (qualifier ++ name) tablePattern types =
        v.tableMeta clients name tablePattern types
  /-- Where all are asked for the whole pattern, it is the same metastores whatever it is, and the
  pattern stays as it stands. -/
  whole : t.resolution = .manual →
    ∀ pattern, v.reached pattern = v.bindings.map fun b => (b, pattern)

theorem transparent_of_coherent {t : Table κ} (hcoherent : t.registry.Coherent)
    (clients : κ → Client) (statuses : StatusBoard) (timeout : Nat) {qualifier : String}
    (hqualifier : Text.AsciiCase.same qualifier defaultCatalog = true) (name : String) :
    Transparent clients t (survey statuses timeout t).1 qualifier name := by
  have hstrip : strip (qualifier ++ name) = strip name := strip_append hqualifier name
  let v := (survey statuses timeout t).1
  have hscope (hresolution : t.resolution = .prefixed) : v.scope = .decomposed :=
    congrArg Survey.Scope.under hresolution
  have hnodup (hresolution : t.resolution = .prefixed) :
      (v.bindings.map Binding.databasePrefix).Nodup := by
    have hsublist : v.bindings.Sublist t.bindings := List.filter_sublist
    exact (hcoherent.nodup_prefixes hresolution).sublist (hsublist.map _)
  constructor
  case allTables =>
    unfold allTables
    rw [hstrip]
  case execute =>
    intro request
    unfold execute
    dsimp only
    rw [hstrip]
  case createDatabase =>
    intro payload
    unfold createDatabase
    rw [hstrip]
  case shares =>
    intro hresolution hname
    exact Survey.reached_append (hscope hresolution) (hnodup hresolution) hqualifier hname
  case listings =>
    intro hresolution hname hother
    have hreached := Survey.reached_append_eq (hscope hresolution) (hnodup hresolution) hqualifier
      hname hother
    constructor
    · unfold Survey.databases
      dsimp only
      rw [hreached]
    · intro tablePattern types
      unfold Survey.tableMeta
      rw [hreached]
  case whole =>
    intro hresolution pattern
    exact Survey.reached_forwarded (congrArg Survey.Scope.under hresolution) pattern

/-- In every federation, whatever has happened to it, a qualifier of the default catalog in front of
a name or a pattern makes no difference to requests, nor to listings by shares. -/
theorem transparent_course (hstart : Federation.start create settings inventory = .ok f)
    {trace : List Federation.Happening} {p : Federation.Moment κ}
    (hcourse : f.moment.Course trace p) (clients : κ → Client) (timeout : Nat) {qualifier : String}
    (hqualifier : Text.AsciiCase.same qualifier defaultCatalog = true) (name : String) :
    Transparent clients p.table (survey p.inventory.statuses timeout p.table).1 qualifier name := by
  have hcoherent : p.table.registry.Coherent :=
    Federation.Moment.coherent_course hcourse (Federation.coherent_start hstart)
  exact transparent_of_coherent hcoherent clients p.inventory.statuses timeout hqualifier name

theorem transparent_course_upper_case :
    ∃ f : Federation Unit,
      Federation.start (fun _ => .ok ()) { resolution := .prefixed }
        (.ofDefinitions [solePrimary "logs"]) = .ok f ∧
      f.moment.Course [] f.moment ∧ Text.AsciiCase.same "@HIVE#" defaultCatalog = true ∧
      Transparent (fun _ => (oneDatabase "logs").client) f.table
        (survey f.statuses 0 f.table).1 "@HIVE#" "logs" := by
  have hstart := start_solePrimary .prefixed () "logs"
  have hqualifier : Text.AsciiCase.same "@HIVE#" defaultCatalog = true := by decide
  have htransparent := transparent_course hstart .refl (fun _ => (oneDatabase "logs").client) 0
    hqualifier "logs"
  exact ⟨_, hstart, .refl, hqualifier, htransparent⟩

/-- Under manual resolution the primary is asked for the pattern with its qualifier, which covers no
database that it has. -/
theorem listings_of_forwarded_qualifier :
    Federation.start (fun _ => .ok ()) { resolution := .manual }
        (.ofDefinitions [solePrimary "logs"]) = .ok (soleFederation .manual () "logs") ∧
      strip "logs" ≠ defaultCatalog ∧
      let f := soleFederation .manual () "logs"
      let v := (survey f.statuses 0 f.table).1
      let clients := fun _ => (oneDatabase "logs").client
      (v.reached "logs").map Prod.snd = ["logs"] ∧
        (v.reached "@hive#logs").map Prod.snd = ["@hive#logs"] ∧
        (v.databases clients (some "logs")).items = ["logs"] ∧
        (v.databases clients (some "@hive#logs")).items = [] := by
  refine ⟨start_solePrimary .manual () "logs", by decide, by decide, by decide, ?_, ?_⟩
  · exact (Survey.gather_singleton _).trans (by decide)
  · exact (Survey.gather_singleton _).trans (by decide)

end Catalog

end MetastoreFederation
