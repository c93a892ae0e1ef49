import Mathlib.Data.List.Find
import MetastoreFederation.Proofs.Basic
import MetastoreFederation.Proofs.Routing.Ownership

/-!
Who serves a name, told by the definitions alone. Where the primary stands among them does not
matter, since nothing is its own by a prefix or a list; of the others the order matters.
-/

set_option autoImplicit false
set_option relaxedAutoImplicit false

namespace MetastoreFederation.Routing

open Metastore Text

variable {κ : Type}

/-- The databases that a definition owns by their names, in lower case. -/
def listedOf (d : Definition) : List String :=
  if d.isPrimary then [] else d.listedDatabases.map Lowercase.lower

/-- The definition that owns a name: the first with the longest prefix that begins it, or the last
that lists it. -/
def ownerAmong? (resolution : Resolution) (definitions : List Definition) (database : String) :
    Option Definition :=
  match resolution with
  | .prefixed =>
    ((definitions.filter fun d => d.databasePrefix != "").mergeSort fun d e =>
      e.databasePrefix.utf8ByteSize ≤ d.databasePrefix.utf8ByteSize).find? fun d =>
        (AsciiCase.dropStartOf? d.databasePrefix database).isSome
  | .manual =>
    (definitions.flatMap fun d => (listedOf d).map fun name => (name, d)).reverse.lookup
      (Lowercase.lower database)

/-- The definition that serves a name: its owner, else the primary. -/
def servingAmong (resolution : Resolution) (definitions : List Definition) (database : String) :
    Except RoutingError Definition :=
  match (ownerAmong? resolution definitions database).or
      (definitions.find? Definition.isPrimary) with
  | some d => .ok d
  | none => .error (.noPrimary database)

section Order

variable {resolution : Resolution} {definitions others : List Definition}

/-- The federated ones among definitions. -/
def federatedOf (definitions : List Definition) : List Definition :=
  definitions.filter fun d => !d.isPrimary

theorem isPrimary_eq_false_of_prefixed {d : Definition} (h : d.databasePrefix ≠ "") :
    d.isPrimary = false := by
  unfold Definition.databasePrefix at h
  unfold Definition.isPrimary
  cases hrole : d.role with
  | primary => simp [hrole] at h
  | federated => rfl

theorem ownerAmong?_federatedOf (resolution : Resolution) (definitions : List Definition)
    (database : String) :
    ownerAmong? resolution (federatedOf definitions) database =
      ownerAmong? resolution definitions database := by
  unfold ownerAmong? federatedOf
  cases resolution with
  | prefixed =>
    dsimp only
    rw [List.filter_filter]
    have hfilter : (definitions.filter fun d => d.databasePrefix != "" && !d.isPrimary) =
        definitions.filter fun d => d.databasePrefix != "" := by
      refine List.filter_congr fun d _ => ?_
      cases hlead : d.databasePrefix != "" with
      | false => rfl
      | true => rw [isPrimary_eq_false_of_prefixed (bne_iff_ne.mp hlead)]; rfl
    rw [hfilter]
  | manual =>
    dsimp only
    rw [flatMap_filter_eq fun d hd => ?_]
    rw [Bool.not_eq_false'] at hd
    unfold listedOf
    rw [if_pos hd]
    rfl

/-- Names are served alike where the federated definitions are the same in the same order, and the
primary is the same, wherever it stands. -/
theorem servingAmong_eq (hfederated : federatedOf others = federatedOf definitions)
    (hprimary : others.find? Definition.isPrimary = definitions.find? Definition.isPrimary)
    (database : String) :
    servingAmong resolution others database = servingAmong resolution definitions database := by
  unfold servingAmong
  rw [hprimary, ← ownerAmong?_federatedOf resolution others, hfederated,
    ownerAmong?_federatedOf resolution definitions]

/-- Of permuted definitions with one primary at most, the first primary is the same. -/
theorem find?_isPrimary_of_perm {others : List Definition} (hperm : others.Perm definitions)
    (h : definitions.Pairwise fun d e => ¬ (d.isPrimary = true ∧ e.isPrimary = true)) :
    others.find? Definition.isPrimary = definitions.find? Definition.isPrimary := by
  have hlone : ∀ l : List Definition,
      l.Pairwise (fun d e => ¬ (d.isPrimary = true ∧ e.isPrimary = true)) →
        (l.filter Definition.isPrimary).Pairwise fun _ _ => False :=
    fun l hl => List.pairwise_filter.mpr (hl.imp fun hboth hd he => hboth ⟨hd, he⟩)
  have hothers := hperm.symm.pairwise h fun hboth hswapped => hboth hswapped.symm
  -- Of the primaries no two are in any order, so that only one list of them can be.
  have hsame : others.filter Definition.isPrimary = definitions.filter Definition.isPrimary :=
    List.Perm.eq_of_pairwise (fun _ _ _ _ hle _ => hle.elim) (hlone _ hothers) (hlone _ h)
      (hperm.filter _)
  rw [← List.head?_filter, ← List.head?_filter, hsame]

end Order

namespace Registry.Coherent

variable {r : Registry κ}

theorem map_definition_ownerByPrefix? (h : r.Coherent) (hresolution : r.resolution = .prefixed)
    (database : String) :
    (r.snapshot.ownerByPrefix? database).map Binding.definition =
      ownerAmong? .prefixed r.snapshot.definitions database := by
  have hlead : ∀ b ∈ r.snapshot.bindings, b.databasePrefix = b.definition.databasePrefix := by
    intro b hb
    rw [h.databasePrefix b hb, hresolution]
    rfl
  let prefixed := r.snapshot.bindings.filter fun b => b.databasePrefix != ""
  let sorted := prefixed.mergeSort fun b c => Snapshot.prefixSize c ≤ Snapshot.prefixSize b
  have hin : ∀ b ∈ prefixed, b ∈ r.snapshot.bindings := fun b => List.mem_of_mem_filter
  have hprefixed : prefixed.map Binding.definition =
      r.snapshot.definitions.filter fun d => d.databasePrefix != "" := by
    unfold Snapshot.definitions
    rw [List.filter_map]
    refine congrArg _ (List.filter_congr fun b hb => ?_)
    rw [hlead b hb]
    rfl
  have hsorted : sorted.map Binding.definition =
      (r.snapshot.definitions.filter fun d => d.databasePrefix != "").mergeSort fun d e =>
        e.databasePrefix.utf8ByteSize ≤ d.databasePrefix.utf8ByteSize := by
    rw [← hprefixed]
    refine List.map_mergeSort fun b hb c hc => ?_
    unfold Snapshot.prefixSize
    rw [hlead b (hin b hb), hlead c (hin c hc)]
  have howner : r.snapshot.ownerByPrefix? database =
      sorted.find? fun b =>
        (AsciiCase.dropStartOf? b.definition.databasePrefix database).isSome := by
    unfold Snapshot.ownerByPrefix?
    rw [h.built]
    refine List.find?_congr fun b hb => ?_
    rw [hlead b (hin b (List.mem_mergeSort.mp hb))]
  rw [howner]
  unfold ownerAmong?
  dsimp only
  rw [← hsorted, List.find?_map]
  rfl

theorem map_definition_ownerByDatabase? (h : r.Coherent) (database : String) :
    (r.snapshot.ownerByDatabase? database).map Binding.definition =
      ownerAmong? .manual r.snapshot.definitions database := by
  unfold Snapshot.ownerByDatabase? ownerAmong? Snapshot.definitions
  rw [h.built, ← lookup_map_snd]
  dsimp only [Snapshot.build]
  rw [List.map_reverse, List.map_flatMap, List.flatMap_map]
  simp only [List.map_map]
  rfl

/-- Who serves a name is a matter of the registered definitions and their order. -/
theorem map_definition_serving (h : r.Coherent) (database : String) :
    (r.snapshot.serving r.resolution database).map Binding.definition =
      servingAmong r.resolution r.snapshot.definitions database := by
  have howner : (r.snapshot.owner? r.resolution database).map Binding.definition =
      ownerAmong? r.resolution r.snapshot.definitions database := by
    cases hresolution : r.resolution with
    | prefixed => exact h.map_definition_ownerByPrefix? hresolution database
    | manual => exact h.map_definition_ownerByDatabase? database
  have hprimary : r.snapshot.primary.map Binding.definition =
      r.snapshot.definitions.find? Definition.isPrimary := by
    unfold Snapshot.definitions
    rw [h.primary_eq, List.find?_map]
    rfl
  unfold Snapshot.serving servingAmong
  rw [← howner, ← hprimary]
  cases r.snapshot.owner? r.resolution database with
  | some b => rfl
  | none =>
    cases r.snapshot.primary with
    | some b => rfl
    | none => rfl

end Registry.Coherent

/-- The definition of the metastore to which a table leads a name. -/
theorem Table.map_definition_resolve {t : Table κ} (h : t.registry.Coherent) (database : String) :
    (t.resolve database).map (fun found => found.1.definition) =
      servingAmong t.resolution (t.bindings.map Binding.definition)
        (Pattern.Qualifier.strip database) := by
  refine Eq.trans ?_ (h.map_definition_serving (Pattern.Qualifier.strip database))
  unfold Table.resolve Table.resolution
  cases t.registry.snapshot.serving t.registry.resolution (Pattern.Qualifier.strip database) <;> rfl

end MetastoreFederation.Routing
