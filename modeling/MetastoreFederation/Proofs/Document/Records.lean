import MetastoreFederation.Document.Source
import MetastoreFederation.Proofs.Basic

/-!
Records that are given field by field. A record is read where its fields come in their order, each
with a value that it takes; a field may be left out if the record need not have it.
-/

set_option autoImplicit false
set_option relaxedAutoImplicit false

namespace MetastoreFederation.Document

theorem readOption_eq_some {ν α : Type} [Source ν] {read : ν → Except DataError α} {v : ν} {a : α}
    (hpresent : Source.isAbsent v = .ok false) (hread : read v = .ok a) :
    readOption read v = .ok (some a) := by
  unfold readOption
  rw [hpresent, hread]
  rfl

namespace RecordType

variable {ν ρ : Type} [Source ν] {type : RecordType ν ρ}

/-- Fields take values from entries, one field after another, and lead from one record to another.
-/
inductive Fills : List (Field ν ρ) → ρ → List (ν × ν) → ρ → Prop
  | done {r : ρ} : Fills [] r [] r
  | entered {field : Field ν ρ} {fields : List (Field ν ρ)} {key value : ν}
      {entries : List (ν × ν)} {r s t : ρ}
      (name : Source.text "field identifier" key = .ok field.name)
      (enters : field.enter value r = .ok s) (rest : Fills fields s entries t) :
      Fills (field :: fields) r ((key, value) :: entries) t
  | leftOut {field : Field ν ρ} {fields : List (Field ν ρ)} {entries : List (ν × ν)} {r t : ρ}
      (optional : field.required = false) (rest : Fills fields r entries t) :
      Fills (field :: fields) r entries t

variable {fields : List (Field ν ρ)} {entries : List (ν × ν)} {r t : ρ}

/-- What fills the fields is entered, and afterwards no field is missing. -/
theorem enterNamed_of_fills (hnames : (type.fields.map Field.name).Nodup)
    (hfills : Fills fields r entries t) {seen : List String}
    (hfields : fields.Sublist type.fields) (hseen : ∀ field ∈ fields, field.name ∉ seen) :
    ∃ filled, type.enterNamed seen r entries = .ok (filled, t) ∧ seen ⊆ filled ∧
      ∀ field ∈ fields, field.required = true → field.name ∈ filled := by
  -- The names of the fields that are to come are distinct from those that were seen.
  induction hfills generalizing seen with
  | done => exact ⟨seen, rfl, List.Subset.refl _, nofun⟩
  | @entered field fields key value entries r s t name enters rest ih =>
    have hfield : field ∈ type.fields := hfields.subset List.mem_cons_self
    obtain ⟨hnew, hseen⟩ := List.forall_mem_cons.mp hseen
    have hnodup := hnames.sublist (hfields.map Field.name)
    rw [List.map_cons, List.nodup_cons] at hnodup
    have hlater : ∀ f ∈ fields, f.name ∉ field.name :: seen := by
      intro f hf hmem
      rcases List.mem_cons.mp hmem with hsame | hmem
      · exact hnodup.1 (hsame ▸ List.mem_map_of_mem hf)
      · exact hseen f hf hmem
    obtain ⟨filled, hrest, hkept, hrequired⟩ := ih (List.sublist_of_cons_sublist hfields) hlater
    refine ⟨filled, ?_, fun n hn => hkept (List.mem_cons_of_mem _ hn), ?_⟩
    · rw [enterNamed, name]
      dsimp only [bind, Except.bind]
      rw [(find?_eq_some_iff_of_nodup hnames).mpr ⟨hfield, rfl⟩]
      dsimp only
      rw [if_neg hnew, enters]
      exact hrest
    · exact List.forall_mem_cons.mpr ⟨fun _ => hkept List.mem_cons_self, hrequired⟩
  | leftOut optional rest ih =>
    obtain ⟨-, hseen⟩ := List.forall_mem_cons.mp hseen
    obtain ⟨filled, hrest, hkept, hrequired⟩ := ih (List.sublist_of_cons_sublist hfields) hseen
    refine ⟨filled, hrest, hkept, List.forall_mem_cons.mpr ⟨fun h => ?_, hrequired⟩⟩
    rw [optional] at h
    cases h

/-- A record is read from entries that fill its fields. -/
theorem read_of_fills (hnames : (type.fields.map Field.name).Nodup)
    (hfills : Fills type.fields type.blank entries r) {v : ν}
    (hparts : Source.parts s!"struct {type.title}" v = .ok (.named entries)) :
    type.read v = .ok r := by
  obtain ⟨filled, hentered, -, hrequired⟩ :=
    enterNamed_of_fills hnames hfills (List.Sublist.refl _) fun _ _ => List.not_mem_nil
  have hcomplete : type.missing? filled = none := by
    unfold missing?
    rw [Option.map_eq_none_iff, List.find?_eq_none]
    intro field hfield hmissing
    rw [Bool.and_eq_true, Bool.not_eq_true', List.contains_eq_mem] at hmissing
    exact of_decide_eq_false hmissing.2 (hrequired field hfield hmissing.1)
  unfold RecordType.read
  rw [hparts]
  dsimp only [bind, Except.bind]
  rw [hentered]
  dsimp only
  rw [hcomplete]

end RecordType

end MetastoreFederation.Document
