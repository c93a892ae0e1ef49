import MetastoreFederation.Proofs.Routing.RegistrationOrder

/-!
What is seen of a routing table: its metastores in their order, what may be written at each of them,
and which of them serves a name. The last is a matter of the first two.
-/

set_option autoImplicit false
set_option relaxedAutoImplicit false

namespace MetastoreFederation.Routing

open Metastore
open Snapshot (prefixSize)

/-- What is seen of a binding: its entry, and which databases may be written. -/
structure Face where
  entry : Entry
  mayWrite : String → Bool

variable {κ : Type}

namespace Table

def face (t : Table κ) (b : Binding κ) : Face := ⟨b.entry, t.created.mayWrite b⟩

def faces (t : Table κ) : List Face := t.bindings.map t.face

/-- What is seen of the metastore that serves a name. -/
def answer (t : Table κ) (database : String) : Except RoutingError Face :=
  (t.resolve database).map fun found => t.face found.1

/-- Two tables that nobody can tell apart by what is seen of them. -/
structure Indistinct (t u : Table κ) : Prop where
  faces : u.faces = t.faces
  answers : ∀ database, u.answer database = t.answer database

theorem Indistinct.refl (t : Table κ) : t.Indistinct t := ⟨rfl, fun _ => rfl⟩

theorem Indistinct.names {t u : Table κ} (h : t.Indistinct u) :
    u.bindings.map Binding.name = t.bindings.map Binding.name := by
  have hnames := congrArg (List.map fun face => face.entry.name) h.faces
  unfold Table.faces at hnames
  rwa [List.map_map, List.map_map] at hnames

theorem answer_eq_map_serving (t : Table κ) (database : String) :
    t.answer database =
      (t.registry.snapshot.serving t.resolution (Pattern.Qualifier.strip database)).map t.face := by
  unfold answer resolve
  cases t.registry.snapshot.serving t.resolution (Pattern.Qualifier.strip database) <;> rfl

section Transfer

variable {t u : Table κ} {b c : Binding κ} {database : String}

theorem exists_face_eq (hfaces : u.faces = t.faces) (hb : b ∈ t.bindings) :
    ∃ c ∈ u.bindings, u.face c = t.face b := by
  have hmem : t.face b ∈ u.faces := hfaces ▸ List.mem_map_of_mem hb
  exact List.mem_map.mp hmem

theorem definition_eq_of_face_eq (h : u.face c = t.face b) : c.definition = b.definition :=
  congrArg (fun face => face.entry.definition) h

/-- A face belongs to one binding only. -/
theorem eq_of_face_eq (hu : u.registry.Coherent) {d : Binding κ} (hc : c ∈ u.bindings)
    (hd : d ∈ u.bindings) (h : u.face c = u.face d) : c = d := by
  have hname : c.name = d.name := congrArg (fun face => face.entry.definition.name) h
  exact List.inj_on_of_nodup_map hu.nodup_names hc hd hname

/-- Bindings that look alike claim the same names. -/
theorem claims_iff_of_face_eq (ht : t.registry.Coherent) (hu : u.registry.Coherent)
    (hresolution : u.resolution = t.resolution) (hb : b ∈ t.bindings) (hc : c ∈ u.bindings)
    (h : u.face c = t.face b) :
    Claims t.resolution b database ↔ Claims t.resolution c database :=
  ht.claims_iff_of_definition_eq hu hresolution hb hc (definition_eq_of_face_eq h)

theorem exists_owns_prefixed_of_faces_eq (ht : t.registry.Coherent) (hu : u.registry.Coherent)
    (htmode : t.resolution = .prefixed) (humode : u.resolution = .prefixed)
    (hfaces : u.faces = t.faces) (howns : Owns .prefixed t.bindings database b) :
    ∃ c, u.face c = t.face b ∧ Owns .prefixed u.bindings database c := by
  have hclaims : ∀ {b c : Binding κ}, b ∈ t.bindings → c ∈ u.bindings → u.face c = t.face b →
      (Claims .prefixed b database ↔ Claims .prefixed c database) := fun hb hc h =>
    htmode ▸ claims_iff_of_face_eq ht hu (humode.trans htmode.symm) hb hc h
  have hsize : ∀ {b c : Binding κ}, b ∈ t.bindings → c ∈ u.bindings → u.face c = t.face b →
      prefixSize c = prefixSize b := by
    intro b c hb hc h
    rw [hu.prefixSize_eq humode hc, ht.prefixSize_eq htmode hb, definition_eq_of_face_eq h]
  obtain ⟨before, after, hsplit, hbclaims, hbefore, hafter⟩ := howns
  have hmap : u.bindings.map u.face = before.map t.face ++ t.face b :: after.map t.face := by
    have hmap' : u.bindings.map u.face = t.bindings.map t.face := hfaces
    rw [hmap', hsplit, List.map_append, List.map_cons]
  obtain ⟨before', rest, hu', hbefore', hrest⟩ := List.map_eq_append_iff.mp hmap
  obtain ⟨c, after', rfl, hface, hafter'⟩ := List.map_eq_cons_iff.mp hrest
  have hb : b ∈ t.bindings := hsplit ▸ List.mem_append_right _ List.mem_cons_self
  have hc : c ∈ u.bindings := hu' ▸ List.mem_append_right _ List.mem_cons_self
  -- Each binding on one side of the owner has its like on the same side in the other table.
  have hlike : ∀ {l l' : List (Binding κ)}, l'.map u.face = l.map t.face →
      (∀ a ∈ l, a ∈ t.bindings) → (∀ d ∈ l', d ∈ u.bindings) → ∀ d ∈ l',
      Claims .prefixed d database →
      ∃ a ∈ l, Claims .prefixed a database ∧ prefixSize d = prefixSize a := by
    intro l l' hsame hl hl' d hd hdclaims
    obtain ⟨a, ha, haface⟩ := List.mem_map.mp (hsame ▸ List.mem_map_of_mem (f := u.face) hd)
    exact ⟨a, ha, (hclaims (hl a ha) (hl' d hd) haface.symm).mpr hdclaims,
      hsize (hl a ha) (hl' d hd) haface.symm⟩
  refine ⟨c, hface, before', after', hu', (hclaims hb hc hface).mp hbclaims, ?_, ?_⟩
  · intro d hd hdclaims
    obtain ⟨a, ha, haclaims, hda⟩ := hlike hbefore'
      (fun a ha => hsplit ▸ List.mem_append_left _ ha)
      (fun d hd => hu' ▸ List.mem_append_left _ hd) d hd hdclaims
    rw [hda, hsize hb hc hface]
    exact hbefore a ha haclaims
  · intro d hd hdclaims
    obtain ⟨a, ha, haclaims, hda⟩ := hlike hafter'
      (fun a ha => hsplit ▸ List.mem_append_right _ (List.mem_cons_of_mem _ ha))
      (fun d hd => hu' ▸ List.mem_append_right _ (List.mem_cons_of_mem _ hd)) d hd hdclaims
    rw [hda, hsize hb hc hface]
    exact hafter a ha haclaims

theorem exists_owns_manual_of_faces_eq (ht : t.registry.Coherent) (hu : u.registry.Coherent)
    (htmode : t.resolution = .manual) (humode : u.resolution = .manual)
    (hfaces : u.faces = t.faces) (howns : Owns .manual t.bindings database b) :
    ∃ c, u.face c = t.face b ∧ Owns .manual u.bindings database c := by
  have hclaims : ∀ {b c : Binding κ}, b ∈ t.bindings → c ∈ u.bindings → u.face c = t.face b →
      (Claims .manual b database ↔ Claims .manual c database) := fun hb hc h =>
    htmode ▸ claims_iff_of_face_eq ht hu (humode.trans htmode.symm) hb hc h
  obtain ⟨hb, hbclaims, hsole⟩ := howns
  obtain ⟨c, hc, hface⟩ := exists_face_eq hfaces hb
  refine ⟨c, hface, hc, (hclaims hb hc hface).mp hbclaims, fun d hd hdclaims => ?_⟩
  obtain ⟨a, ha, haface⟩ := exists_face_eq hfaces.symm hd
  obtain rfl := hsole a ha ((hclaims ha hd haface.symm).mpr hdclaims)
  exact eq_of_face_eq hu hd hc (haface.symm.trans hface.symm)

/-- The owner of a name looks alike in tables that look alike. -/
theorem exists_owns_of_faces_eq (ht : t.registry.Coherent) (hu : u.registry.Coherent)
    (hresolution : u.resolution = t.resolution) (hfaces : u.faces = t.faces)
    (howns : Owns t.resolution t.bindings database b) :
    ∃ c, u.face c = t.face b ∧ Owns u.resolution u.bindings database c := by
  rw [hresolution]
  cases hmode : t.resolution with
  | prefixed =>
    exact exists_owns_prefixed_of_faces_eq ht hu hmode (hresolution.trans hmode) hfaces
      (hmode ▸ howns)
  | manual =>
    exact exists_owns_manual_of_faces_eq ht hu hmode (hresolution.trans hmode) hfaces
      (hmode ▸ howns)

theorem serving_eq_iff (h : t.registry.Coherent)
    {result : Except RoutingError (Binding κ)} :
    t.registry.snapshot.serving t.resolution database = result ↔
      Scan t.resolution t.bindings database result :=
  h.serving_eq_iff_scan database result

theorem answer_eq_of_faces_eq (ht : t.registry.Coherent) (hu : u.registry.Coherent)
    (hresolution : u.resolution = t.resolution) (hfaces : u.faces = t.faces) (database : String) :
    u.answer database = t.answer database := by
  rw [answer_eq_map_serving, answer_eq_map_serving]
  generalize Pattern.Qualifier.strip database = name
  have hunclaimed : (∀ b ∈ t.bindings, ¬ Claims t.resolution b name) →
      ∀ c ∈ u.bindings, ¬ Claims u.resolution c name := by
    intro hnone c hc hclaims
    obtain ⟨b, hb, hface⟩ := exists_face_eq hfaces.symm hc
    rw [hresolution] at hclaims
    exact hnone b hb ((claims_iff_of_face_eq ht hu hresolution hb hc hface.symm).mpr hclaims)
  cases hserving : t.registry.snapshot.serving t.resolution name with
  | ok b =>
    obtain ⟨c, hface, hscan'⟩ : ∃ c, u.face c = t.face b ∧
        Scan u.resolution u.bindings name (.ok c) := by
      cases (serving_eq_iff ht).mp hserving with
      | owner howns =>
        obtain ⟨c, hface, howns'⟩ := exists_owns_of_faces_eq ht hu hresolution hfaces howns
        exact ⟨c, hface, .owner howns'⟩
      | primary hnone hb hrole =>
        obtain ⟨c, hc, hface⟩ := exists_face_eq hfaces hb
        have hrole' : c.isPrimary = true :=
          (congrArg Definition.isPrimary (definition_eq_of_face_eq hface)).trans hrole
        exact ⟨c, hface, .primary (hunclaimed hnone) hc hrole'⟩
    rw [(serving_eq_iff hu).mpr hscan']
    exact congrArg Except.ok hface
  | error cause =>
    have hscan' : Scan u.resolution u.bindings name (.error cause) := by
      cases (serving_eq_iff ht).mp hserving with
      | none hnone hfederated =>
        refine .none (hunclaimed hnone) fun c hc => ?_
        obtain ⟨b, hb, hface⟩ := exists_face_eq hfaces.symm hc
        exact (congrArg Definition.isPrimary (definition_eq_of_face_eq hface)).symm.trans
          (hfederated b hb)
    rw [(serving_eq_iff hu).mpr hscan']
    rfl

/-- Tables that show the same metastores cannot be told apart by who serves a name. -/
theorem indistinct_iff (ht : t.registry.Coherent) (hu : u.registry.Coherent)
    (hresolution : u.resolution = t.resolution) : t.Indistinct u ↔ u.faces = t.faces := by
  constructor
  · exact Indistinct.faces
  · intro hfaces
    exact ⟨hfaces, answer_eq_of_faces_eq ht hu hresolution hfaces⟩

end Transfer

end Table

end MetastoreFederation.Routing
