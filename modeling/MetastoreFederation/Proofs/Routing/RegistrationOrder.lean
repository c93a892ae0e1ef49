import MetastoreFederation.Proofs.Routing.Registration

/-!
Whether the order of registration decides who serves a name. It does just where two prefixes that
differ in case only are the longest ones that begin the name: such prefixes may stand side by side,
and the one registered first wins.
-/

set_option autoImplicit false
set_option relaxedAutoImplicit false

namespace MetastoreFederation.Routing

open Metastore Text
open Snapshot (prefixSize)

variable {κ : Type}

/-- Two metastores contest a name: their prefixes differ in case only and begin the name, and no
longer prefix begins it. -/
def Contested (definitions : List Definition) (database : String) : Prop :=
  ∃ d ∈ definitions, ∃ e ∈ definitions, d ≠ e ∧ d.databasePrefix ≠ "" ∧
    AsciiCase.same d.databasePrefix e.databasePrefix = true ∧
    AsciiCase.Begins d.databasePrefix database ∧
    ∀ c ∈ definitions, AsciiCase.Begins c.databasePrefix database →
      c.databasePrefix.utf8ByteSize ≤ d.databasePrefix.utf8ByteSize

instance (definitions : List Definition) (database : String) :
    Decidable (Contested definitions database) := by
  unfold Contested
  infer_instance

namespace Registry

variable {r s : Registry κ} {create : Factory κ} {entries : List Entry} {database : String}

/-- The name of the metastore that serves a database. -/
def servingName (r : Registry κ) (database : String) : Except RoutingError String :=
  (r.snapshot.serving r.resolution database).map Binding.name

namespace Coherent

/-- What a binding claims is a matter of its definition. -/
theorem claims_iff_of_definition_eq (hr : r.Coherent) (hs : s.Coherent)
    (hresolution : s.resolution = r.resolution) {b c : Binding κ}
    (hb : b ∈ r.snapshot.bindings) (hc : c ∈ s.snapshot.bindings)
    (hdefinition : c.definition = b.definition) :
    Claims r.resolution b database ↔ Claims r.resolution c database := by
  cases hmode : r.resolution with
  | prefixed =>
    rw [hr.claims_prefixed_iff hmode hb, hs.claims_prefixed_iff (hresolution.trans hmode) hc,
      hdefinition]
  | manual =>
    unfold Claims Binding.isPrimary
    dsimp only
    rw [hdefinition]

end Coherent

/-- No other binding that claims the name has a longer prefix than its owner. -/
theorem prefixSize_le_of_owns {bindings : List (Binding κ)} {b c : Binding κ}
    (howns : Owns .prefixed bindings database b) (hc : c ∈ bindings)
    (hclaims : Claims .prefixed c database) : prefixSize c ≤ prefixSize b := by
  obtain ⟨before, after, rfl, -, hbefore, hafter⟩ := howns
  rcases List.mem_append.mp hc with hin | hin
  · exact Nat.le_of_lt (hbefore c hin hclaims)
  · rcases List.mem_cons.mp hin with rfl | hin
    · exact Nat.le_refl _
    · exact hafter c hin hclaims

/-- The registries hold the same definitions under the same way of resolution. -/
structure Alike (r s : Registry κ) : Prop where
  left : r.Coherent
  right : s.Coherent
  resolution : s.resolution = r.resolution
  definitions : ∀ d, d ∈ s.snapshot.definitions ↔ d ∈ r.snapshot.definitions

namespace Alike

theorem symm (h : Alike r s) : Alike s r :=
  ⟨h.right, h.left, h.resolution.symm, fun d => (h.definitions d).symm⟩

theorem exists_mem (h : Alike r s) {b : Binding κ} (hb : b ∈ r.snapshot.bindings) :
    ∃ c ∈ s.snapshot.bindings, c.definition = b.definition :=
  List.mem_map.mp ((h.definitions b.definition).mpr (List.mem_map_of_mem hb))

theorem unclaimed (h : Alike r s)
    (hr : ∀ b ∈ r.snapshot.bindings, ¬ Claims r.resolution b database) :
    ∀ c ∈ s.snapshot.bindings, ¬ Claims s.resolution c database := by
  intro c hc hclaims
  obtain ⟨b, hb, hdefinition⟩ := h.symm.exists_mem hc
  have hiff : Claims r.resolution b database ↔ Claims r.resolution c database :=
    h.left.claims_iff_of_definition_eq h.right h.resolution hb hc hdefinition.symm
  rw [h.resolution] at hclaims
  exact hr b hb (hiff.mpr hclaims)

/-- Two owners of a name have equal definitions, unless the name is contested. -/
theorem definition_eq_of_owns (h : Alike r s) {b c : Binding κ}
    (hb : Owns r.resolution r.snapshot.bindings database b)
    (hc : Owns s.resolution s.snapshot.bindings database c)
    (hcontested : r.resolution = .prefixed → ¬ Contested r.snapshot.definitions database) :
    c.definition = b.definition := by
  obtain ⟨hbin, hbclaims⟩ := claims_of_owns hb
  obtain ⟨hcin, hcclaims⟩ := claims_of_owns hc
  rw [h.resolution] at hcclaims
  obtain ⟨c', hc'in, hc'⟩ := h.symm.exists_mem hcin
  obtain ⟨b', hb'in, hb'⟩ := h.exists_mem hbin
  have hc'claims : Claims r.resolution c' database :=
    (h.left.claims_iff_of_definition_eq h.right h.resolution hc'in hcin hc'.symm).mpr hcclaims
  have hb'claims : Claims r.resolution b' database :=
    (h.left.claims_iff_of_definition_eq h.right h.resolution hbin hb'in hb').mp hbclaims
  cases hmode : r.resolution with
  | manual =>
    rw [hmode] at hb hc'claims
    rw [← hc', hb.2.2 c' hc'in hc'claims]
  | prefixed =>
    have hmode' : s.resolution = .prefixed := h.resolution.trans hmode
    rw [hmode] at hb hbclaims hc'claims hb'claims
    rw [hmode'] at hc
    have hsize : b.definition.databasePrefix.utf8ByteSize =
        c.definition.databasePrefix.utf8ByteSize := by
      have hle := prefixSize_le_of_owns hb hc'in hc'claims
      have hge := prefixSize_le_of_owns hc hb'in hb'claims
      rw [h.left.prefixSize_eq hmode hc'in, h.left.prefixSize_eq hmode hbin, hc'] at hle
      rw [h.right.prefixSize_eq hmode' hb'in, h.right.prefixSize_eq hmode' hcin, hb'] at hge
      exact Nat.le_antisymm hge hle
    obtain ⟨hlead, hbegins⟩ := (h.left.claims_prefixed_iff hmode hbin).mp hbclaims
    obtain ⟨-, hbegins'⟩ := (h.left.claims_prefixed_iff hmode hc'in).mp hc'claims
    rw [hc'] at hbegins'
    by_contra hne
    refine hcontested hmode ⟨b.definition, List.mem_map_of_mem hbin, c.definition, ?_,
      Ne.symm hne, hlead, hbegins.same_of_size_eq hbegins' hsize, hbegins, ?_⟩
    · rw [← hc']
      exact List.mem_map_of_mem hc'in
    · rintro d hd hd'
      obtain ⟨x, hx, rfl⟩ := List.mem_map.mp hd
      by_cases hempty : x.definition.databasePrefix = ""
      · rw [hempty]
        exact Nat.zero_le _
      · have hxclaims := (h.left.claims_prefixed_iff hmode hx).mpr ⟨hempty, hd'⟩
        have hxle := prefixSize_le_of_owns hb hx hxclaims
        rwa [h.left.prefixSize_eq hmode hx, h.left.prefixSize_eq hmode hbin] at hxle

/-- The primary of the one is that of the other. -/
theorem definition_eq_of_isPrimary (h : Alike r s) {b c : Binding κ}
    (hb : b ∈ r.snapshot.bindings) (hc : c ∈ s.snapshot.bindings) (hrole : b.isPrimary = true)
    (hrole' : c.isPrimary = true) : c.definition = b.definition := by
  obtain ⟨c', hc'in, hc'⟩ := h.symm.exists_mem hc
  have hprimary' : c'.isPrimary = true := (congrArg Definition.isPrimary hc').trans hrole'
  have hfound := h.left.primary_eq_some_iff.mpr ⟨hb, hrole⟩
  have hfound' := h.left.primary_eq_some_iff.mpr ⟨hc'in, hprimary'⟩
  rw [← hc', Option.some.inj (hfound'.symm.trans hfound)]

theorem federated (h : Alike r s) (hr : ∀ b ∈ r.snapshot.bindings, b.isPrimary = false) :
    ∀ c ∈ s.snapshot.bindings, c.isPrimary = false := by
  intro c hc
  obtain ⟨b, hb, hdefinition⟩ := h.symm.exists_mem hc
  exact (congrArg Definition.isPrimary hdefinition).symm.trans (hr b hb)

/-- A name that is not contested is served alike. -/
theorem servingName_eq (h : Alike r s)
    (hcontested : r.resolution = .prefixed → ¬ Contested r.snapshot.definitions database) :
    s.servingName database = r.servingName database := by
  have hleft := (h.left.serving_eq_iff_scan database _).mp rfl
  have hright := (h.right.serving_eq_iff_scan database _).mp rfl
  have hname : ∀ {b c : Binding κ}, c.definition = b.definition →
      (Except.ok c : Except RoutingError (Binding κ)).map Binding.name =
        (Except.ok b : Except RoutingError (Binding κ)).map Binding.name :=
    fun hdefinition => congrArg (fun d : Definition => Except.ok d.name) hdefinition
  have hclaimed : ∀ {b : Binding κ}, Owns r.resolution r.snapshot.bindings database b →
      ¬ ∀ c ∈ s.snapshot.bindings, ¬ Claims s.resolution c database := by
    intro b howns hnone
    obtain ⟨hb, hclaims⟩ := claims_of_owns howns
    exact h.symm.unclaimed hnone b hb hclaims
  have hclaimed' : ∀ {c : Binding κ}, Owns s.resolution s.snapshot.bindings database c →
      ¬ ∀ b ∈ r.snapshot.bindings, ¬ Claims r.resolution b database := by
    intro c howns hnone
    obtain ⟨hc, hclaims⟩ := claims_of_owns howns
    exact h.unclaimed hnone c hc hclaims
  unfold servingName
  generalize r.snapshot.serving r.resolution database = left at hleft ⊢
  generalize s.snapshot.serving s.resolution database = right at hright ⊢
  cases hleft with
  | owner hb =>
    cases hright with
    | owner hc => exact hname (h.definition_eq_of_owns hb hc hcontested)
    | primary hnone => exact absurd hnone (hclaimed hb)
    | none hnone => exact absurd hnone (hclaimed hb)
  | primary hnone hb hrole =>
    cases hright with
    | owner hc => exact absurd hnone (hclaimed' hc)
    | primary _ hc hrole' => exact hname (h.definition_eq_of_isPrimary hb hc hrole hrole')
    | none _ hfederated =>
      exact absurd (hrole.symm.trans (h.symm.federated hfederated _ hb)) (by decide)
  | none hnone hfederated =>
    cases hright with
    | owner hc => exact absurd hnone (hclaimed' hc)
    | primary _ hc hrole =>
      exact absurd (hrole.symm.trans (h.federated hfederated _ hc)) (by decide)
    | none => rfl

end Alike

theorem definitions_of_registerAll {resolution : Resolution}
    (hall : registerAll create (.empty resolution) entries = .ok r) (d : Definition) :
    d ∈ r.snapshot.definitions ↔ d ∈ entries.map Entry.definition := by
  rw [(extended_registerAll (coherent_empty resolution) hall).definitions]
  exact ⟨fun hd => hd.resolve_left List.not_mem_nil, Or.inr⟩

theorem alike_of_perm {resolution : Resolution} {create' : Factory κ} {entries' : List Entry}
    (hperm : (entries'.map Entry.definition).Perm (entries.map Entry.definition))
    (hall : registerAll create (.empty resolution) entries = .ok r)
    (hall' : registerAll create' (.empty resolution) entries' = .ok s) : Alike r s := by
  have hr := extended_registerAll (coherent_empty resolution) hall
  have hs := extended_registerAll (coherent_empty resolution) hall'
  refine ⟨hr.coherent, hs.coherent, hs.resolution.trans hr.resolution.symm, ?_⟩
  intro d
  rw [definitions_of_registerAll hall, definitions_of_registerAll hall', hperm.mem_iff]

/-- What is registered first stands first. -/
theorem head_of_registerAll {resolution : Resolution} {e : Entry}
    (hall : registerAll create (.empty resolution) (e :: entries) = .ok r) :
    ∃ b after, r.snapshot.bindings = b :: after ∧ b.definition = e.definition := by
  obtain ⟨next, hregister, hrest⟩ := registerAll_cons_eq_ok_iff.mp hall
  have hnext := extended_register (coherent_empty resolution) hregister
  obtain ⟨after, hkept⟩ := (extended_registerAll hnext.coherent hrest).kept
  rcases register_eq_ok_iff.mp hregister with ⟨b, hfind, -⟩ | ⟨-, -, b, hbind, rfl⟩
  · cases hfind
  · exact ⟨b, after, hkept.symm, (bind_eq_ok hbind).1⟩

/-- A contested name is served by any of those that contest it, if that one is registered first. -/
theorem servingName_of_first {resolution : Resolution} {e : Entry}
    (hall : registerAll create (.empty resolution) (e :: entries) = .ok r)
    (hresolution : resolution = .prefixed) (hlead : e.definition.databasePrefix ≠ "")
    (hbegins : AsciiCase.Begins e.definition.databasePrefix database)
    (hlongest : ∀ c ∈ r.snapshot.definitions, AsciiCase.Begins c.databasePrefix database →
      c.databasePrefix.utf8ByteSize ≤ e.definition.databasePrefix.utf8ByteSize) :
    r.servingName database = .ok e.definition.name := by
  have hextended := extended_registerAll (coherent_empty resolution) hall
  have hr := hextended.coherent
  have hmode : r.resolution = .prefixed := hextended.resolution.trans hresolution
  obtain ⟨b, after, hbindings, hb⟩ := head_of_registerAll hall
  have hbin : b ∈ r.snapshot.bindings := by
    rw [hbindings]
    exact List.mem_cons_self
  have hclaims : Claims .prefixed b database := by
    rw [hr.claims_prefixed_iff hmode hbin, hb]
    exact ⟨hlead, hbegins⟩
  have howns : Owns r.resolution r.snapshot.bindings database b := by
    rw [hmode]
    refine ⟨[], after, hbindings, hclaims, nofun, ?_⟩
    intro c hc hcclaims
    have hcin : c ∈ r.snapshot.bindings := by
      rw [hbindings]
      exact List.mem_cons_of_mem b hc
    rw [hr.prefixSize_eq hmode hcin, hr.prefixSize_eq hmode hbin, hb]
    have hcbegins := ((hr.claims_prefixed_iff hmode hcin).mp hcclaims).2
    exact hlongest c.definition (List.mem_map_of_mem hcin) hcbegins
  unfold servingName
  rw [(hr.serving_eq_iff_scan database _).mpr (.owner howns), ← hb]
  rfl

/-- A name is served alike after the same definitions were registered in any order, just where it is
not contested. -/
theorem servingName_eq_iff_not_contested {resolution : Resolution}
    (hall : registerAll create (.empty resolution) entries = .ok r) (database : String) :
    (∀ (create' : Factory κ) (entries' : List Entry) (s : Registry κ),
      (entries'.map Entry.definition).Perm (entries.map Entry.definition) →
      registerAll create' (.empty resolution) entries' = .ok s →
      s.servingName database = r.servingName database) ↔
    (resolution = .prefixed → ¬ Contested (entries.map Entry.definition) database) := by
  have hr := extended_registerAll (coherent_empty resolution) hall
  constructor
  · rintro hsame hresolution ⟨d, hd, e, he, hne, hlead, hcase, hbegins, hlongest⟩
    -- Whichever of the two is registered first serves the name.
    have hfirst : ∀ x ∈ entries.map Entry.definition, x.databasePrefix ≠ "" →
        AsciiCase.Begins x.databasePrefix database →
        x.databasePrefix.utf8ByteSize = d.databasePrefix.utf8ByteSize →
        r.servingName database = .ok x.name := by
      intro x hx hxlead hxbegins hxsize
      obtain ⟨entry, hentry, rfl⟩ := List.mem_map.mp hx
      obtain ⟨front, back, hsplit⟩ := List.append_of_mem hentry
      have hperm : ((entry :: (front ++ back)).map Entry.definition).Perm
          (entries.map Entry.definition) := by
        rw [hsplit]
        exact List.perm_middle.symm.map _
      obtain ⟨s, hs⟩ :=
        exists_registerAll_of_perm (coherent_empty resolution) hperm ⟨r, hall⟩
      rw [← hsame create _ s hperm hs]
      refine servingName_of_first hs hresolution hxlead hxbegins ?_
      intro c hc hcbegins
      rw [hxsize]
      rw [definitions_of_registerAll hs, hperm.mem_iff] at hc
      exact hlongest c hc hcbegins
    have hsize := AsciiCase.utf8ByteSize_eq_of_same hcase
    have helead : e.databasePrefix ≠ "" := by
      intro hempty
      rw [hempty] at hsize
      exact hlead (String.utf8ByteSize_eq_zero_iff.mp hsize)
    have hnames : d.name = e.name := by
      have hserved := hfirst d hd hlead hbegins rfl
      have hserved' := hfirst e he helead (hbegins.of_same hcase) hsize.symm
      exact Except.ok.inj (hserved.symm.trans hserved')
    have hdin := (definitions_of_registerAll hall d).mpr hd
    have hein := (definitions_of_registerAll hall e).mpr he
    rcases hr.coherent.agree hdin hein with heq | hcompatible
    · exact hne heq
    · exact hcompatible.names hnames
  · intro hcontested create' entries' s hperm hs
    refine (alike_of_perm hperm hall hs).servingName_eq ?_
    rw [hr.resolution]
    rintro hresolution ⟨d, hd, e, he, hrest⟩
    simp only [definitions_of_registerAll hall] at hd he hrest
    exact hcontested hresolution ⟨d, hd, e, he, hrest⟩

/-- A metastore with a prefix in small letters. -/
def smallPrefixed : Entry :=
  ⟨0, { name := "waggle", addresses := "a", explicitPrefix := some "w_" }⟩

/-- A metastore with this prefix in capital letters. -/
def capitalPrefixed : Entry :=
  ⟨1, { name := "wasp", addresses := "b", explicitPrefix := some "W_" }⟩

/-- The two, and one with a prefix of its own. -/
def casedEntries : List Entry :=
  [smallPrefixed, capitalPrefixed, ⟨2, { name := "bee", addresses := "c" }⟩]

/-- The name of the third metastore is served alike in all orders, the names that begin with the
prefix of the first are not. -/
theorem servingName_eq_iff_not_contested_cased :
    ∃ r, registerAll (fun _ => .ok ()) (.empty .prefixed) casedEntries = .ok r ∧
      (∀ create entries (s : Registry Unit),
        (entries.map Entry.definition).Perm (casedEntries.map Entry.definition) →
        registerAll create (.empty .prefixed) entries = .ok s →
        s.servingName "bee_w_logs" = r.servingName "bee_w_logs") ∧
      ¬ ∀ create entries (s : Registry Unit),
        (entries.map Entry.definition).Perm (casedEntries.map Entry.definition) →
        registerAll create (.empty .prefixed) entries = .ok s →
        s.servingName "w_logs" = r.servingName "w_logs" := by
  obtain ⟨r, hall⟩ : ∃ r, registerAll (fun _ => .ok ()) (.empty .prefixed) casedEntries = .ok r :=
    exists_ok_of_isSome (by decide)
  refine ⟨r, hall, ?_, ?_⟩
  · refine (servingName_eq_iff_not_contested hall "bee_w_logs").mpr fun _ => ?_
    decide
  · intro hsame
    have hfree := (servingName_eq_iff_not_contested hall "w_logs").mp hsame rfl
    exact hfree (by decide)

/-- Of two metastores with prefixes that differ in case only, the first one registered serves. -/
theorem servingName_of_cased_prefixes :
    ∃ r s : Registry Unit,
      registerAll (fun _ => .ok ()) (.empty .prefixed) [smallPrefixed, capitalPrefixed] = .ok r ∧
      registerAll (fun _ => .ok ()) (.empty .prefixed) [capitalPrefixed, smallPrefixed] = .ok s ∧
      r.servingName "w_logs" = .ok "waggle" ∧ s.servingName "w_logs" = .ok "wasp" := by
  obtain ⟨r, hr⟩ : ∃ r, registerAll (fun _ => .ok ()) (.empty .prefixed)
      [smallPrefixed, capitalPrefixed] = .ok r := exists_ok_of_isSome (by decide)
  obtain ⟨s, hs⟩ : ∃ s, registerAll (fun _ => .ok ()) (.empty .prefixed)
      [capitalPrefixed, smallPrefixed] = .ok s := exists_ok_of_isSome (by decide)
  have hsizes : ∀ c ∈ [smallPrefixed, capitalPrefixed].map Entry.definition,
      c.databasePrefix.utf8ByteSize ≤ 2 := by decide
  refine ⟨r, s, hr, hs, ?_, ?_⟩
  · refine servingName_of_first hr rfl (by decide) (by decide) fun c hc _ => ?_
    exact hsizes c ((definitions_of_registerAll hr c).mp hc)
  · refine servingName_of_first hs rfl (by decide) (by decide) fun c hc _ => ?_
    have hc' := (definitions_of_registerAll hs c).mp hc
    exact hsizes c ((List.Perm.swap ..).mem_iff.mp hc')

end Registry

end MetastoreFederation.Routing
