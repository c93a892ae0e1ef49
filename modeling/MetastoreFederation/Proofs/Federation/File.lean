import MetastoreFederation.FederationFile
import MetastoreFederation.Proofs.Metastore.Record
import MetastoreFederation.Proofs.Yaml.Tokens

/-!
The file of a federation that is written and read again. The file of definitions with the primary in
front holds the same definitions in the same order, and so does the file that is read from its text.
Since the roles tell the sections of a file, its definitions make it up.
-/

set_option autoImplicit false
set_option relaxedAutoImplicit false

namespace MetastoreFederation.FederationFile

open Document Metastore Yaml
open Yaml.Node (ofDatum ofEntries)
open Document.RecordType (Fills)

section Sections

variable {f g : FederationFile} {d : Definition} {definitions : List Definition}

theorem eq_of_sections (hprimary : f.primary = g.primary) (hfederated : f.federated = g.federated) :
    f = g := by
  cases f
  cases g
  cases hprimary
  cases hfederated
  rfl

theorem ofSections_sections (f : FederationFile) : ofSections f.primary f.federated = f := by
  have hrole : ∀ {d : Definition} {role : Role}, d.role = role → { d with role := role } = d := by
    rintro d role rfl
    rfl
  refine eq_of_sections ?_ ?_
  · refine (Option.map_congr fun d hd => ?_).trans ((congrFun Option.map_id _))
    exact hrole (f.primary_role d hd)
  · refine (List.map_congr_left fun d hd => ?_).trans (List.map_id _)
    exact hrole (f.federated_role d hd)

theorem definitions_add_primary (hrole : d.role = .primary) :
    (f.add d).definitions = d :: f.federated := by
  unfold add
  split
  · rfl
  · next hfederated =>
    rw [hrole] at hfederated
    cases hfederated

/-- A federated definition is entered behind all others. -/
theorem definitions_add_federated (hrole : d.role = .federated) :
    (f.add d).definitions = f.definitions ++ [d] := by
  unfold add
  split
  · next hprimary =>
    rw [hrole] at hprimary
    cases hprimary
  · exact (List.append_assoc ..).symm

theorem role_eq_federated (h : d.isPrimary = false) : d.role = .federated := by
  unfold Definition.isPrimary at h
  cases hrole : d.role with
  | primary =>
    rw [hrole] at h
    cases h
  | federated => rfl

theorem definitions_foldl_add (f : FederationFile) (h : ∀ d ∈ definitions, d.isPrimary = false) :
    (definitions.foldl add f).definitions = f.definitions ++ definitions := by
  induction definitions generalizing f with
  | nil => exact (List.append_nil _).symm
  | cons d definitions ih =>
    obtain ⟨hd, h⟩ := List.forall_mem_cons.mp h
    rw [List.foldl_cons, ih _ h, definitions_add_federated (role_eq_federated hd),
      List.append_assoc, List.singleton_append]

/-- The file of definitions of which at most the first is a primary holds them in their order. -/
theorem definitions_ofDefinitions (h : definitions.Pairwise fun _ e => e.isPrimary = false) :
    (ofDefinitions definitions).definitions = definitions := by
  cases definitions with
  | nil => rfl
  | cons d definitions =>
    have hfirst : (empty.add d).definitions = [d] := by
      cases hrole : d.role with
      | primary => exact definitions_add_primary hrole
      | federated => exact definitions_add_federated hrole
    unfold ofDefinitions
    rw [List.foldl_cons, definitions_foldl_add _ (List.pairwise_cons.mp h).1, hfirst]
    rfl

theorem isPrimary_of_mem_primary (h : d ∈ f.primary) : d.isPrimary = true := by
  unfold Definition.isPrimary
  rw [f.primary_role d h]
  rfl

theorem isPrimary_of_mem_federated (h : d ∈ f.federated) : d.isPrimary = false := by
  unfold Definition.isPrimary
  rw [f.federated_role d h]
  rfl

/-- The primary section is read off the roles of the definitions. -/
theorem find?_isPrimary_definitions (f : FederationFile) :
    f.definitions.find? Definition.isPrimary = f.primary := by
  have hfederated : f.federated.find? Definition.isPrimary = none := by
    rw [List.find?_eq_none]
    intro d hd
    rw [isPrimary_of_mem_federated hd]
    exact Bool.false_ne_true
  unfold definitions
  cases hprimary : f.primary with
  | none => exact hfederated
  | some d => exact List.find?_cons_of_pos (isPrimary_of_mem_primary hprimary)

/-- So is the section of the federated definitions. -/
theorem filter_not_isPrimary_definitions (f : FederationFile) :
    (f.definitions.filter fun d => !d.isPrimary) = f.federated := by
  have hfederated : (f.federated.filter fun d => !d.isPrimary) = f.federated := by
    rw [List.filter_eq_self]
    intro d hd
    rw [isPrimary_of_mem_federated hd]
    rfl
  unfold definitions
  rw [List.filter_append, hfederated]
  cases hprimary : f.primary with
  | none => rfl
  | some d =>
    have hd := isPrimary_of_mem_primary hprimary
    rw [Option.toList_some, List.filter_cons_of_neg (by rw [hd]; exact Bool.false_ne_true)]
    rfl

/-- Files with the same definitions are the same. -/
theorem eq_of_definitions (h : f.definitions = g.definitions) : f = g := by
  refine eq_of_sections ?_ ?_
  · rw [← find?_isPrimary_definitions, h, find?_isPrimary_definitions]
  · rw [← filter_not_isPrimary_definitions, h, filter_not_isPrimary_definitions]

theorem pairwise_definitions (f : FederationFile) :
    f.definitions.Pairwise fun _ e => e.isPrimary = false := by
  have hfederated : f.federated.Pairwise fun _ e => e.isPrimary = false :=
    List.pairwise_of_forall_mem_list fun _ _ _ he => isPrimary_of_mem_federated he
  unfold definitions
  cases f.primary with
  | none => exact hfederated
  | some d =>
    exact List.pairwise_cons.mpr ⟨fun e he => isPrimary_of_mem_federated he, hfederated⟩

end Sections

theorem readList_toDatum (definitions : List Definition) :
    readList Definition.read (ofDatum (.items (definitions.map Definition.toDatum))) =
      .ok definitions :=
  Node.readList_ofDatum fun d _ => d.read_toDatum

theorem record_read_toDatum (f : FederationFile) :
    record.read (ofDatum f.toDatum) = .ok ⟨f.primary, f.federated⟩ := by
  have hnames : ((record (ν := Node)).fields.map Field.name).Nodup := by decide
  refine RecordType.read_of_fills hnames ?_ rfl
  have hfederated : ∀ primary, Fills ((record (ν := Node)).fields.drop 1) ⟨primary, []⟩
      (ofEntries [("federated-meta-stores", .items (f.federated.map Definition.toDatum))])
      ⟨primary, f.federated⟩ := fun primary =>
    fills_written (enter_eq_ok _ (readList_toDatum f.federated)) .done
  cases hprimary : f.primary with
  | none => exact .leftOut rfl (hfederated none)
  | some d =>
    have hread := readOption_eq_some (v := ofDatum d.toDatum) rfl d.read_toDatum
    exact fills_written (enter_eq_ok _ hread) (hfederated (some d))

/-- The file that is read is the one that was written. -/
theorem read_toDatum (f : FederationFile) : FederationFile.read (ofDatum f.toDatum) = .ok f := by
  unfold FederationFile.read
  rw [record_read_toDatum]
  exact congrArg Except.ok f.ofSections_sections

/-- A file is read again from its text, if the text is read as what was written. -/
theorem parse_render {f : FederationFile} (htext : Printer.Reproduced f.toDatum) :
    parse f.render = .ok f := by
  unfold parse render
  rw [readDocument_of_reproduced htext f.read_toDatum]
  rfl

/-- Every file is read again as it was written, and its definitions make it up again. That the text
of a document is read as the tree which was written is a matter of the text alone. -/
theorem roundTrip (f : FederationFile) (htext : Printer.Reproduced f.toDatum) :
    parse f.render = .ok f ∧ ofDefinitions f.definitions = f :=
  ⟨parse_render htext, eq_of_definitions (definitions_ofDefinitions f.pairwise_definitions)⟩

/-- A lone primary that says what could be left out: an empty prefix, an empty list of visible
databases, and the longest latency. -/
def lonePrimary : FederationFile := ofDefinitions [
  { name := "p", role := .primary, addresses := "a", explicitPrefix := some "",
    visibleDatabases := some [], aliases := .ofList [("b", "~")], latency := 18446744073709551615 }]

set_option maxRecDepth 100000 in
theorem roundTrip_lonePrimary :
    parse lonePrimary.render = .ok lonePrimary ∧
      ofDefinitions lonePrimary.definitions = lonePrimary :=
  roundTrip lonePrimary (Printer.reproduced_of_scan (by decide +kernel))

end MetastoreFederation.FederationFile
