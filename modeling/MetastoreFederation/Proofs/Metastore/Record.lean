import MetastoreFederation.Metastore.Record
import MetastoreFederation.Proofs.Yaml.Written

/-!
Definitions that are written and read again. What is left out when a definition is written is just
what its fields are without an entry, so the definition that is read is the one that was written.
-/

set_option autoImplicit false
set_option relaxedAutoImplicit false

namespace MetastoreFederation.Metastore

open Document Yaml
open Yaml.Node (ofDatum ofEntries)
open Document.RecordType (Fills)

section Entries

variable {ρ α : Type} {field : Field Node ρ} {fields : List (Field Node ρ)} {x : Datum}
  {es : List (String × Datum)} {r s t : ρ}

theorem enter_eq_ok {read : Except DataError α} {a : α} (put : α → ρ) (hread : read = .ok a) :
    (do return put (← read)) = (.ok (put a) : Except DataError ρ) := by
  rw [hread]
  rfl

theorem fills_written (henters : field.enter (ofDatum x) r = .ok s)
    (hrest : Fills fields s (ofEntries es) t) :
    Fills (field :: fields) r (ofEntries ((field.name, x) :: es)) t :=
  .entered rfl henters hrest

/-- An entry that is left out says what is the case without it. -/
theorem fills_entryUnless {absent : Bool} (hoptional : field.required = false)
    (hwithout : absent = true → s = r)
    (henters : absent = false → field.enter (ofDatum x) r = .ok s)
    (hrest : Fills fields s (ofEntries es) t) :
    Fills (field :: fields) r
      (ofEntries (Definition.entryUnless absent field.name x ++ es)) t := by
  cases absent with
  | true =>
    obtain rfl := hwithout rfl
    exact .leftOut hoptional hrest
  | false => exact fills_written (henters rfl) hrest

end Entries

section Values

variable {α : Type}

theorem readList_textItems (texts : List String) :
    readList readText (ofDatum (Definition.textItems texts)) = .ok texts :=
  Node.readList_ofDatum fun _ _ => rfl

theorem read_ruleDatum (r : TableRule) :
    TableRule.record.read (ofDatum (Definition.ruleDatum r)) = .ok r := by
  have hnames : ((TableRule.record (ν := Node)).fields.map Field.name).Nodup := by decide
  refine RecordType.read_of_fills hnames ?_ rfl
  refine fills_written rfl (fills_written ?_ .done)
  exact enter_eq_ok _ (readList_textItems r.tables)

theorem readList_ruleItems (rules : List TableRule) :
    readList TableRule.record.read (ofDatum (.items (rules.map Definition.ruleDatum))) =
      .ok rules :=
  Node.readList_ofDatum fun r _ => read_ruleDatum r

namespace AliasTable

theorem insertEntry_append {name surfaced : String} {entries : List (String × String)}
    (h : ∀ e ∈ entries, e.1 < name) :
    insertEntry name surfaced entries = entries ++ [(name, surfaced)] := by
  induction entries with
  | nil => rfl
  | cons e entries ih =>
    obtain ⟨he, h⟩ := List.forall_mem_cons.mp h
    have hne : name ≠ e.1 := fun heq => String.lt_irrefl _ (heq ▸ he)
    rw [insertEntry, if_neg (String.lt_asymm he), if_neg hne, ih h]
    rfl

theorem entries_foldl_insert {before : AliasTable} {entries : List (String × String)}
    (hordered : (before.entries ++ entries).Pairwise fun a b => a.1 < b.1) :
    (entries.foldl (fun t e => t.insert e.1 e.2) before).entries = before.entries ++ entries := by
  induction entries generalizing before with
  | nil => exact (List.append_nil _).symm
  | cons e entries ih =>
    have hinserted : (before.insert e.1 e.2).entries = before.entries ++ [e] := by
      refine insertEntry_append fun d hd => ?_
      exact (List.pairwise_append.mp hordered).2.2 d hd e List.mem_cons_self
    rw [List.append_cons, ← hinserted] at hordered ⊢
    exact ih hordered

theorem eq_of_entries_eq {t u : AliasTable} (h : t.entries = u.entries) : t = u := by
  cases t
  cases u
  cases h
  rfl

/-- Entries in the order of their names make up their table. -/
theorem ofList_entries (t : AliasTable) : ofList t.entries = t :=
  eq_of_entries_eq (entries_foldl_insert t.ordered)

theorem eq_empty_of_isEmpty {t : AliasTable} (h : t.isEmpty = true) : t = empty :=
  eq_of_entries_eq (List.isEmpty_iff.mp h)

theorem read_ofDatum (t : AliasTable) :
    AliasTable.read (ofDatum (.fields (t.entries.map fun e => (e.1, .text e.2)))) = .ok t := by
  let node (e : String × String) : Node × Node := (ofDatum (.text e.1), ofDatum (.text e.2))
  have hnodes : Source.entries (ofDatum (.fields (t.entries.map fun e => (e.1, .text e.2)))) =
      .ok (t.entries.map node) := by
    rw [Node.entries_ofDatum, List.map_map]
    rfl
  let read (e : Node × Node) : Except DataError (String × String) := do
    return (← readText e.1, ← readText e.2)
  have hread : (t.entries.map node).mapM read = .ok t.entries := mapM_map_eq_ok fun _ _ => rfl
  unfold AliasTable.read
  rw [hnodes]
  change ((t.entries.map node).mapM read >>= fun entries => pure (ofList entries)) = _
  rw [hread]
  exact congrArg Except.ok (ofList_entries t)

end AliasTable

theorem chooseVariant_role (role : Role) : chooseVariant Role.names role.name = .ok role := by
  cases role <;> rfl

theorem chooseVariant_policy (policy : Policy) :
    chooseVariant Policy.names policy.name = .ok policy := by
  cases policy <;> decide

theorem readOption_textItems {texts : Option (List String)} (hpresent : texts.isNone = false) :
    readOption (readList readText) (ofDatum (Definition.textItems (texts.getD []))) =
      .ok texts := by
  obtain ⟨l, rfl⟩ := Option.isSome_iff_exists.mp (Option.isNone_eq_false_iff.mp hpresent)
  exact readOption_eq_some rfl (readList_textItems l)

theorem readOption_text {text : Option String} (hpresent : text.isNone = false) :
    readOption readText (ofDatum (.text (text.getD ""))) = .ok text := by
  obtain ⟨s, rfl⟩ := Option.isSome_iff_exists.mp (Option.isNone_eq_false_iff.mp hpresent)
  exact readOption_eq_some (Node.isAbsent_ofDatum_text s) rfl

end Values

/-- The definition that is read is the one that was written. -/
theorem Definition.read_toDatum (d : Definition) :
    Definition.read (ofDatum d.toDatum) = .ok d := by
  have hnames : ((Definition.record (ν := Node)).fields.map Field.name).Nodup := by decide
  refine RecordType.read_of_fills hnames ?_ rfl
  simp only [List.append_assoc, List.cons_append, List.nil_append]
  change Fills _ ({ name := "", addresses := "" } : Definition) _ _
  refine fills_written (enter_eq_ok _ rfl) ?_
  refine fills_written (enter_eq_ok _ (chooseVariant_role d.role)) ?_
  refine fills_written (enter_eq_ok _ rfl) ?_
  dsimp only
  refine fills_entryUnless rfl (fun h => ?_) (fun h => enter_eq_ok _ (readOption_text h)) ?_
  · rw [Option.isNone_iff_eq_none.mp h]
  refine fills_written (enter_eq_ok _ (chooseVariant_policy d.policy)) ?_
  dsimp only
  refine fills_entryUnless rfl (fun h => ?_) (fun _ => enter_eq_ok _ (readList_textItems _)) ?_
  · rw [List.isEmpty_iff.mp h]
  dsimp only
  refine fills_entryUnless rfl (fun h => ?_) (fun h => enter_eq_ok _ (readOption_textItems h)) ?_
  · rw [Option.isNone_iff_eq_none.mp h]
  dsimp only
  refine fills_entryUnless rfl (fun h => ?_) (fun _ => enter_eq_ok _ (readList_ruleItems _)) ?_
  · rw [List.isEmpty_iff.mp h]
  dsimp only
  refine fills_entryUnless rfl (fun h => ?_)
    (fun _ => enter_eq_ok _ (AliasTable.read_ofDatum _)) ?_
  · rw [AliasTable.eq_empty_of_isEmpty h]
  dsimp only
  have hlatency := Node.natural_ofDatum d.latency.toNat_lt_size
  refine fills_written ((enter_eq_ok _ hlatency).trans ?_) .done
  rw [UInt64.ofNat_toNat]

end MetastoreFederation.Metastore
