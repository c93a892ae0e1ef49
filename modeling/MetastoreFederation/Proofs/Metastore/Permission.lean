import MetastoreFederation.Metastore.CreatedBoard
import MetastoreFederation.Proofs.Basic
import MetastoreFederation.Proofs.Regex.Escaping

/-!
What a metastore permits: what its whitelist lists, and what was created through its binding.
-/

set_option autoImplicit false
set_option relaxedAutoImplicit false

namespace MetastoreFederation.Metastore

variable {κ : Type}

/-- An entry of the whitelist lists the database. -/
def Definition.Whitelists (d : Definition) (database : String) : Prop :=
  ∃ entry ∈ d.whitelist, Regex.Lists entry database

/-- A federated metastore creates no databases. -/
theorem Definition.mayCreate_of_federated {d : Definition} (hproblems : d.problems = [])
    (hfederated : d.isPrimary = false) : d.policy.mayCreate = false := by
  cases hcreates : d.policy.mayCreate with
  | false => rfl
  | true =>
    unfold Definition.problems Policy.allowedForFederated at hproblems
    simp only [hfederated, hcreates, List.append_eq_nil_iff] at hproblems
    exact absurd hproblems.1.2 (List.cons_ne_nil _ _)

section Gate

theorem mapM_parseEntry?_iff {entries : List String} {whitelist : List Regex.Expr}
    (h : entries.mapM Regex.parseEntry? = some whitelist) {database : String} :
    whitelist.any (fun e => e.isMatch database) = true ↔
      ∃ entry ∈ entries, Regex.Lists entry database := by
  rw [List.any_eq_true, exists_mem_iff_of_mapM h]
  rfl

theorem Gate.policy_of_make? {policy : Policy} {entries : List String} {g : Gate}
    (h : make? policy entries = some g) : g.policy = policy := by
  obtain ⟨whitelist, -, rfl⟩ := Option.map_eq_some_iff.mp h
  rfl

theorem Gate.any_whitelist_iff {policy : Policy} {entries : List String} {g : Gate}
    (h : make? policy entries = some g) {database : String} :
    g.whitelist.any (fun e => e.isMatch database) = true ↔
      ∃ entry ∈ entries, Regex.Lists entry database := by
  obtain ⟨whitelist, hwhitelist, rfl⟩ := Option.map_eq_some_iff.mp h
  exact mapM_parseEntry?_iff hwhitelist

end Gate

namespace CreatedBoard

variable {c later : CreatedBoard} {b : Binding κ} {id : Nat} {database name : String}

theorem mayWrite_iff_of_listed (hpolicy : b.gate.policy = .writeListedAndCreate) :
    c.mayWrite b name = true ↔ b.gate.whitelist.any (fun e => e.isMatch name) = true ∨
      ∃ database ∈ c.databases b.id, sameFolded database name = true := by
  unfold mayWrite Gate.mayWrite Gate.isListed
  rw [hpolicy, Bool.or_eq_true, List.any_eq_true (l := c.databases b.id)]

/-- Note is only taken of a database that is to be listed and may not be written yet. -/
theorem mem_databases_note_iff :
    name ∈ (c.note b database).databases id ↔ name ∈ c.databases id ∨
      id = b.id ∧ name = database ∧ b.gate.policy = .writeListedAndCreate ∧
        c.mayWrite b database = false := by
  by_cases hid : id = b.id
  · subst hid
    rw [databases_note, List.mem_append, or_comm, and_iff_right rfl]
    refine or_congr_right ?_
    unfold mayWrite Gate.mayWrite Gate.newlyCreated
    split_ifs with hnew
    · rw [hnew.1, List.mem_singleton, and_iff_left ⟨rfl, by simpa using hnew.2⟩]
    · refine iff_of_false List.not_mem_nil fun h => hnew ⟨h.2.1, ?_⟩
      have hdenied := h.2.2
      rw [h.2.1] at hdenied
      simpa using hdenied
  · rw [databases_note_of_ne hid]
    simp only [hid, false_and, or_false]

/-- What may be written stays so while no note gets lost. -/
theorem mayWrite_mono (hkept : c.databases b.id ⊆ later.databases b.id)
    (h : c.mayWrite b name = true) : later.mayWrite b name = true := by
  have hlisted (hlists : b.gate.isListed (c.databases b.id) name = true) :
      b.gate.isListed (later.databases b.id) name = true := by
    unfold Gate.isListed at hlists ⊢
    rw [Bool.or_eq_true, List.any_eq_true (l := c.databases b.id)] at hlists
    rw [Bool.or_eq_true, List.any_eq_true (l := later.databases b.id)]
    exact hlists.imp_right fun ⟨database, hdatabase, hsame⟩ => ⟨database, hkept hdatabase, hsame⟩
  unfold mayWrite Gate.mayWrite at h ⊢
  cases hpolicy : b.gate.policy with
  | readOnly =>
    rw [hpolicy] at h
    cases h
  | writeAndCreate => rfl
  | writeListed =>
    rw [hpolicy] at h
    exact hlisted h
  | writeListedAndCreate =>
    rw [hpolicy] at h
    exact hlisted h

theorem mayWrite_note (hcreates : b.gate.mayCreate = true) :
    (c.note b database).mayWrite b database = true := by
  cases hpolicy : b.gate.policy with
  | writeListedAndCreate =>
    unfold mayWrite
    rw [databases_note]
    exact Gate.mayWrite_newlyCreated hpolicy _ _
  | writeAndCreate =>
    unfold mayWrite Gate.mayWrite
    rw [hpolicy]
  | readOnly =>
    unfold Gate.mayCreate at hcreates
    rw [hpolicy] at hcreates
    cases hcreates
  | writeListed =>
    unfold Gate.mayCreate at hcreates
    rw [hpolicy] at hcreates
    cases hcreates

end CreatedBoard

end MetastoreFederation.Metastore
