import Mathlib.Data.List.Nodup
import MetastoreFederation.FederationFile
import MetastoreFederation.Proofs.Routing.Definitions
import MetastoreFederation.Proofs.Routing.Registration

/-!
The validation of a federation file, beside the registration of its definitions. Both want names,
prefixes and listed databases to belong to one definition each. The file may not repeat anything on
its own either; registration takes a repeated definition for the same one, and a metastore that
lists a database twice for one that lists it.
-/

set_option autoImplicit false
set_option relaxedAutoImplicit false

namespace MetastoreFederation.FederationFile

open Metastore Routing Text

variable {κ : Type} {resolution : Resolution} {c : Claims} {d e : Definition}
  {definitions : List Definition}

/-- What may belong to one definition only. A database is meant in lower case. -/
inductive Title
  | name (name : String)
  | databasePrefix (start : String)
  | database (name : String)
deriving DecidableEq

/-- What a definition asks for. -/
def titles (resolution : Resolution) (d : Definition) : List Title :=
  .name d.name :: match resolution with
    | .prefixed => [.databasePrefix d.databasePrefix]
    | .manual => (listedOf d).map .database

/-- A definition before has asked for the title. -/
def Claims.Hold (c : Claims) : Title → Prop
  | .name name => name ∈ c.names
  | .databasePrefix start => start ∈ c.prefixes.map Prod.fst
  | .database name => name ∈ c.databases.map Prod.fst

section Pass

theorem toList_lookup_eq_nil_iff {owners : Owners} {key : String} :
    (owners.lookup key).toList = [] ↔ key ∉ owners.map Prod.fst := by
  rw [Option.toList_eq_nil_iff, List.lookup_eq_none_iff]
  simp only [bne_iff_ne, List.mem_map, not_exists, not_and]
  exact ⟨fun h p hp hkey => h p hp hkey.symm, fun h p hp hkey => h p hp hkey.symm⟩

theorem keys_claimDatabases (owners : Owners) (listed : List String) :
    (claimDatabases d owners listed).1.map Prod.fst =
      (listed.map Lowercase.lower).reverse ++ owners.map Prod.fst := by
  induction listed generalizing owners with
  | nil => rfl
  | cons database listed ih =>
    change (claimDatabases d (claimDatabase d owners database).1 listed).1.map Prod.fst = _
    rw [ih, List.map_cons, List.reverse_cons, List.append_assoc]
    rfl

/-- Databases are claimed without a problem where nobody has them and none is listed twice. -/
theorem claimDatabases_eq_nil_iff (owners : Owners) (listed : List String) :
    (claimDatabases d owners listed).2 = [] ↔
      (∀ key ∈ listed.map Lowercase.lower, key ∉ owners.map Prod.fst) ∧
        (listed.map Lowercase.lower).Nodup := by
  induction listed generalizing owners with
  | nil => exact ⟨fun _ => ⟨nofun, .nil⟩, fun _ => rfl⟩
  | cons database listed ih =>
    change (claimDatabase d owners database).2 ++
      (claimDatabases d (claimDatabase d owners database).1 listed).2 = [] ↔ _
    rw [List.append_eq_nil_iff, ih, claimDatabase, List.map_eq_nil_iff, toList_lookup_eq_nil_iff]
    simp only [List.map_cons, List.mem_cons, List.nodup_cons]
    grind

/-- The databases that a definition claims, as they are listed. -/
theorem claim_manual :
    claim .manual c d =
      let listed := if d.isPrimary then [] else d.listedDatabases
      ({ c with
          names := d.name :: c.names
          databases := (claimDatabases d c.databases listed).1 },
        (if d.name ∈ c.names then ["duplicate metastore name '" ++ d.name ++ "'"] else []) ++
          (claimDatabases d c.databases listed).2) := by
  unfold claim
  dsimp only
  split_ifs <;> simp [claimDatabases]

theorem map_lower_listed :
    (if d.isPrimary then [] else d.listedDatabases).map Lowercase.lower = listedOf d := by
  unfold listedOf
  split_ifs <;> rfl

theorem hold_claim_iff (t : Title) :
    (claim resolution c d).1.Hold t ↔ t ∈ titles resolution d ∨ c.Hold t := by
  unfold titles
  cases resolution with
  | prefixed => cases t <;> simp [claim, Claims.Hold]
  | manual =>
    rw [claim_manual]
    dsimp only
    have hkeys := keys_claimDatabases (d := d) c.databases
      (if d.isPrimary then [] else d.listedDatabases)
    rw [map_lower_listed] at hkeys
    cases t with
    | name name => simp [Claims.Hold]
    | databasePrefix start => simp [Claims.Hold]
    | database name =>
      unfold Claims.Hold
      dsimp only
      rw [hkeys]
      simp

/-- A definition is taken without a problem where it asks for nothing that is held or asked for
twice. -/
theorem claim_eq_nil_iff :
    (claim resolution c d).2 = [] ↔
      (∀ t ∈ titles resolution d, ¬ c.Hold t) ∧ (titles resolution d).Nodup := by
  have hname : (if d.name ∈ c.names then ["duplicate metastore name '" ++ d.name ++ "'"] else []) =
      [] ↔ d.name ∉ c.names := by
    split_ifs with hmem <;> simp [hmem]
  unfold titles
  cases resolution with
  | prefixed =>
    have hnodup : [Title.name d.name, .databasePrefix d.databasePrefix].Nodup := by simp
    unfold claim
    dsimp only
    rw [List.append_eq_nil_iff, hname, List.map_eq_nil_iff, toList_lookup_eq_nil_iff,
      List.forall_mem_cons, List.forall_mem_singleton, and_iff_left hnodup]
    rfl
  | manual =>
    have hinjective : Function.Injective Title.database := fun _ _ h => Title.database.inj h
    rw [claim_manual]
    dsimp only
    rw [List.append_eq_nil_iff, hname, claimDatabases_eq_nil_iff, map_lower_listed,
      List.forall_mem_cons, List.forall_mem_map, List.nodup_cons, List.nodup_map_iff hinjective,
      and_assoc]
    refine and_congr_right fun _ => and_congr_right fun _ => ?_
    simp

theorem clashes_cons : clashes resolution c (d :: definitions) =
    (claim resolution c d).2 ++ clashes resolution (claim resolution c d).1 definitions := rfl

/-- Definitions pass where all that they ask for is asked for once. -/
theorem clashes_eq_nil_iff :
    clashes resolution c definitions = [] ↔
      (∀ t ∈ definitions.flatMap (titles resolution), ¬ c.Hold t) ∧
        (definitions.flatMap (titles resolution)).Nodup := by
  induction definitions generalizing c with
  | nil => exact ⟨fun _ => ⟨nofun, .nil⟩, fun _ => rfl⟩
  | cons d definitions ih =>
    rw [clashes_cons, List.append_eq_nil_iff, ih, claim_eq_nil_iff]
    simp only [hold_claim_iff, List.flatMap_cons, List.mem_append, List.nodup_append']
    unfold List.Disjoint
    grind

end Pass

section Compatible

theorem disjoint_listedOf_iff :
    (listedOf d).Disjoint (listedOf e) ↔
      (d.isPrimary = false → e.isPrimary = false →
        (d.listedDatabases.map Lowercase.lower).Disjoint
          (e.listedDatabases.map Lowercase.lower)) := by
  unfold listedOf
  cases d.isPrimary <;> cases e.isPrimary <;> simp

/-- Definitions that are not both primaries are compatible where no title is asked for by both. -/
theorem compatible_iff_disjoint_titles (hprimaries : ¬ (d.isPrimary = true ∧ e.isPrimary = true)) :
    Compatible resolution d e ↔ (titles resolution d).Disjoint (titles resolution e) := by
  rw [List.disjoint_left]
  unfold titles
  cases resolution with
  | prefixed =>
    have hpair : (∀ t ∈ [Title.name d.name, .databasePrefix d.databasePrefix],
        t ∉ [Title.name e.name, .databasePrefix e.databasePrefix]) ↔
        d.name ≠ e.name ∧ d.databasePrefix ≠ e.databasePrefix := by
      simp
    rw [hpair]
    exact ⟨fun h => ⟨h.names, h.prefixes rfl⟩,
      fun h => ⟨h.1, hprimaries, fun _ => h.2, nofun⟩⟩
  | manual =>
    have hpair : (∀ t ∈ Title.name d.name :: (listedOf d).map .database,
        t ∉ Title.name e.name :: (listedOf e).map .database) ↔
        d.name ≠ e.name ∧ (listedOf d).Disjoint (listedOf e) := by
      rw [List.forall_mem_cons, List.forall_mem_map, List.disjoint_left]
      simp
    rw [hpair, disjoint_listedOf_iff]
    exact ⟨fun h => ⟨h.names, h.databases rfl⟩,
      fun h => ⟨h.1, hprimaries, nofun, fun _ => h.2⟩⟩

theorem nodup_titles_iff :
    (titles resolution d).Nodup ↔ (resolution = .manual → (listedOf d).Nodup) := by
  have hinjective : Function.Injective Title.database := fun _ _ h => Title.database.inj h
  unfold titles
  cases resolution with
  | prefixed => simp
  | manual => simp [List.nodup_map_iff hinjective]

variable {f : FederationFile}

/-- The section of the primary holds one definition at most, and the other one holds none. -/
theorem pairwise_primaries (f : FederationFile) :
    f.definitions.Pairwise fun d e => ¬ (d.isPrimary = true ∧ e.isPrimary = true) := by
  have hfederated : ∀ d ∈ f.federated, d.isPrimary = false := fun d hd =>
    congrArg Role.isPrimary (f.federated_role d hd)
  refine List.pairwise_append.mpr ⟨?_, ?_, ?_⟩
  · cases f.primary with
    | none => exact .nil
    | some d => exact List.pairwise_singleton ..
  · refine List.pairwise_of_forall_mem_list fun d hd _ _ hboth => ?_
    exact absurd hboth.1 (by simp [hfederated d hd])
  · intro d _ e he hboth
    exact absurd hboth.2 (by simp [hfederated e he])

theorem pairwise_compatible_iff :
    f.definitions.Pairwise (Compatible resolution) ↔
      f.definitions.Pairwise fun d e => (titles resolution d).Disjoint (titles resolution e) := by
  constructor
  · intro h
    exact (f.pairwise_primaries.and h).imp fun ⟨hprimaries, hcompatible⟩ =>
      (compatible_iff_disjoint_titles hprimaries).mp hcompatible
  · intro h
    exact (f.pairwise_primaries.and h).imp fun ⟨hprimaries, hdisjoint⟩ =>
      (compatible_iff_disjoint_titles hprimaries).mpr hdisjoint

/-- A file is valid where its definitions are sound and compatible, and lists repeat nothing. -/
theorem validate_eq_ok_iff_compatible :
    f.validate resolution = .ok () ↔
      (∀ d ∈ f.definitions, d.problems = []) ∧ f.definitions.Pairwise (Compatible resolution) ∧
        (resolution = .manual → ∀ d ∈ f.definitions, (listedOf d).Nodup) := by
  have hnone : ∀ t : Title, ¬ Claims.Hold ⟨[], [], []⟩ t := by
    intro t
    cases t <;> exact List.not_mem_nil
  have hvalid : f.validate resolution = .ok () ↔ f.problems resolution = [] := by
    unfold validate
    dsimp only
    split_ifs with hempty
    · exact iff_of_true rfl (List.isEmpty_iff.mp hempty)
    · exact iff_of_false nofun fun hnil => hempty (List.isEmpty_iff.mpr hnil)
  rw [hvalid, problems, List.append_eq_nil_iff, List.flatMap_eq_nil_iff, clashes_eq_nil_iff,
    and_iff_right fun t _ => hnone t, List.nodup_flatMap, pairwise_compatible_iff]
  simp only [nodup_titles_iff]
  unfold Function.onFun
  refine and_congr_right fun _ => ?_
  rw [and_comm]
  refine and_congr_right fun _ => ?_
  exact ⟨fun h hmode d hd => h d hd hmode, fun h d hd hmode => h hmode d hd⟩

theorem nodup_names_of_validate (h : f.validate resolution = .ok ()) :
    (f.definitions.map Definition.name).Nodup :=
  List.pairwise_map.mpr ((validate_eq_ok_iff_compatible.mp h).2.1.imp Compatible.names)

end Compatible

section Registration

variable {create : Factory κ} {f : FederationFile}

/-- Into an empty registry a definition is admitted where it is sound, if it can be bound. -/
theorem admits_empty_iff (h : Bindable create d) :
    Registry.Admits create (.empty resolution) d ↔ d.problems = [] :=
  ⟨fun hadmits => (hadmits.resolve_left List.not_mem_nil).problems,
    fun hproblems => .inr ⟨hproblems, nofun, h⟩⟩

theorem pairwise_agree_and_nodup_iff :
    definitions.Pairwise (Registry.Agree resolution) ∧ definitions.Nodup ↔
      definitions.Pairwise (Compatible resolution) := by
  have hpair : ∀ {d e : Definition},
      Registry.Agree resolution d e ∧ d ≠ e ↔ Compatible resolution d e := by
    intro d e
    refine ⟨fun ⟨hagree, hne⟩ => hagree.resolve_left hne, fun hcompatible => ⟨.inr hcompatible, ?_⟩⟩
    rintro rfl
    exact hcompatible.names rfl
  unfold List.Nodup
  rw [← List.pairwise_and_iff]
  exact ⟨fun h => h.imp hpair.mp, fun h => h.imp hpair.mpr⟩

theorem nodup_listedOf_iff :
    (∀ d ∈ f.definitions, (listedOf d).Nodup) ↔
      ∀ d ∈ f.federated, (d.listedDatabases.map Lowercase.lower).Nodup := by
  have hprimary : ∀ d ∈ f.primary.toList, (listedOf d).Nodup := by
    intro d hd
    have hrole : d.isPrimary = true :=
      congrArg Role.isPrimary (f.primary_role d (Option.mem_toList.mp hd))
    unfold listedOf
    rw [if_pos hrole]
    exact .nil
  have hfederated : ∀ d ∈ f.federated, listedOf d = d.listedDatabases.map Lowercase.lower := by
    intro d hd
    have hrole : d.isPrimary = false := congrArg Role.isPrimary (f.federated_role d hd)
    unfold listedOf
    rw [hrole]
    rfl
  unfold FederationFile.definitions
  rw [List.forall_mem_append, and_iff_right hprimary]
  exact forall₂_congr fun d hd => by rw [hfederated d hd]

/-- A file is valid just where its definitions can all be registered, one after another, and neither
a definition nor a database of a federated definition stands in it twice. -/
theorem validate_eq_ok_iff_exists_registerAll {entries : List Entry}
    (hentries : entries.map Entry.definition = f.definitions)
    (hbindable : ∀ d ∈ f.definitions, Bindable create d) :
    f.validate resolution = .ok () ↔
      (∃ r, Registry.registerAll create (.empty resolution) entries = .ok r) ∧
        f.definitions.Nodup ∧
        (resolution = .manual →
          ∀ d ∈ f.federated, (d.listedDatabases.map Lowercase.lower).Nodup) := by
  have hadmits : (∀ d ∈ f.definitions, Registry.Admits create (.empty resolution) d) ↔
      ∀ d ∈ f.definitions, d.problems = [] :=
    forall₂_congr fun d hd => admits_empty_iff (hbindable d hd)
  have hregister : (∃ r, Registry.registerAll create (.empty resolution) entries = .ok r) ↔
      (∀ d ∈ f.definitions, d.problems = []) ∧
        f.definitions.Pairwise (Registry.Agree resolution) := by
    rw [Registry.exists_registerAll_iff (Registry.coherent_empty resolution), hentries, hadmits]
    rfl
  rw [validate_eq_ok_iff_compatible, hregister, nodup_listedOf_iff,
    ← pairwise_agree_and_nodup_iff]
  tauto

/-- A primary, and a metastore that lists one database. -/
def oneHive : FederationFile :=
  .ofSections (some { name := "primary", addresses := "a" })
    [{ name := "waggle", addresses := "b", visibleDatabases := some ["Logs"] }]

theorem validate_eq_ok_iff_exists_registerAll_one_hive :
    (∀ d ∈ oneHive.definitions, Bindable (fun _ => .ok ()) d) ∧
      (oneHive.validate .manual = .ok () ↔
        (∃ r, Registry.registerAll (fun _ => .ok ()) (.empty .manual)
            (oneHive.definitions.map (Entry.mk 0)) = .ok r) ∧
          oneHive.definitions.Nodup ∧
          ((.manual : Resolution) = .manual →
            ∀ d ∈ oneHive.federated, (d.listedDatabases.map Lowercase.lower).Nodup)) := by
  have hentries : (oneHive.definitions.map (Entry.mk 0)).map Entry.definition =
      oneHive.definitions := by rfl
  have hbindable : ∀ d ∈ oneHive.definitions, Bindable (fun _ => Except.ok ()) d := by
    intro d hd
    have hd' : d = { name := "primary", role := .primary, addresses := "a" } ∨
        d = { name := "waggle", addresses := "b", visibleDatabases := some ["Logs"] } := by
      simpa [FederationFile.definitions, oneHive, ofSections] using hd
    obtain rfl | rfl := hd' <;> exact ⟨⟨(), rfl⟩, ⟨_, rfl⟩, ⟨_, rfl⟩⟩
  exact ⟨hbindable, validate_eq_ok_iff_exists_registerAll hentries hbindable⟩

/-- A metastore that stands in the file twice. -/
def twiceDefined : FederationFile :=
  .ofSections none [{ name := "waggle", addresses := "b" }, { name := "waggle", addresses := "b" }]

/-- A metastore that lists a database twice. -/
def twiceListed : FederationFile :=
  .ofSections none
    [{ name := "waggle", addresses := "b", visibleDatabases := some ["logs", "LOGS"] }]

/-- The two files can be registered, but they are not valid. -/
theorem not_validate_of_repetition :
    ((∀ d ∈ twiceDefined.definitions, Bindable (fun _ => .ok ()) d) ∧
      (∃ r, Registry.registerAll (fun _ => .ok ()) (.empty .prefixed)
        (twiceDefined.definitions.map (Entry.mk 0)) = .ok r) ∧
      twiceDefined.validate .prefixed ≠ .ok ()) ∧
    (∀ d ∈ twiceListed.definitions, Bindable (fun _ => .ok ()) d) ∧
      (∃ r, Registry.registerAll (fun _ => .ok ()) (.empty .manual)
        (twiceListed.definitions.map (Entry.mk 0)) = .ok r) ∧
      twiceListed.validate .manual ≠ .ok () := by
  refine ⟨⟨?_, exists_ok_of_isSome (by decide), by decide⟩,
    ?_, exists_ok_of_isSome (by decide), by decide⟩
  · intro d hd
    have hd' : d = { name := "waggle", addresses := "b" } := by
      simpa [FederationFile.definitions, twiceDefined, ofSections] using hd
    rw [hd']
    exact ⟨⟨(), rfl⟩, ⟨_, rfl⟩, ⟨_, rfl⟩⟩
  · intro d hd
    have hd' :
        d = { name := "waggle", addresses := "b", visibleDatabases := some ["logs", "LOGS"] } := by
      simpa [FederationFile.definitions, twiceListed, ofSections] using hd
    rw [hd']
    exact ⟨⟨(), rfl⟩, ⟨_, rfl⟩, ⟨_, rfl⟩⟩

end Registration

end MetastoreFederation.FederationFile
