import Mathlib.Data.List.TakeDrop
import Parametric.Dialect.Standard

/-! # What a validator promises, and one that keeps it -/
namespace Parametric

theorem Datum.same_text_iff {k : Datum} {t : Text} : k.same (.text t) = true ↔ k = .text t := by
  cases k <;> simp [Datum.same, Datum.quotient?]

namespace Validator

/-- The promises of a validator. It tells of exactly the fields that break the rules of a schema, and
fills in the defaults. In whatever order it keeps its errors, keys that are texts it can compare. -/
structure IsSound (v : Validator) : Prop where
  errors_perm : ∀ s fields r, v.validate s fields = .ok r → r.errors.Perm (s.faults fields).toData
  field?_document : ∀ s fields r, v.validate s fields = .ok r →
    ∀ name, Datum.field? r.document name = Datum.field? (s.normalized fields) name
  exists_validation : ∀ s fields, (∀ e ∈ fields, ∃ t, e.1 = .text t) → ∃ r, v.validate s fields = .ok r

theorem insertFault_perm {f : Datum × FieldFault} {faults faults' : Faults}
    (h : insertFault faults f = .ok faults') : faults'.Perm (f :: faults) := by
  unfold insertFault at h
  split at h
  · simp at h
  · rw [List.span_eq_takeWhile_dropWhile] at h
    obtain rfl := Except.ok.inj h
    exact List.perm_middle.trans (by rw [List.takeWhile_append_dropWhile])

theorem foldlM_insertFault_perm {wrong found faults : Faults}
    (h : wrong.foldlM insertFault found = .ok faults) : faults.Perm (wrong ++ found) := by
  induction wrong generalizing found with
  | nil => exact .of_eq (Except.ok.inj h).symm
  | cons f wrong ih =>
    rw [List.foldlM_cons] at h
    cases hf : insertFault found f with
    | error e =>
      rw [hf] at h
      cases h
    | ok found' =>
      rw [hf] at h
      exact (ih h).trans (((insertFault_perm hf).append_left wrong).trans List.perm_middle)

theorem exists_foldlM_insertFault {wrong : Faults} (ht : ∀ f ∈ wrong, ∃ t, f.1 = .text t)
    (found : Faults) : ∃ faults, wrong.foldlM insertFault found = .ok faults := by
  induction wrong generalizing found with
  | nil => exact ⟨found, rfl⟩
  | cons f wrong ih =>
    obtain ⟨⟨t, hf⟩, ht⟩ := List.forall_mem_cons.1 ht
    have hplace : place f.1 = 0 := by rw [hf]; rfl
    rw [List.foldlM_cons, insertFault, hplace]
    exact ih ht _

theorem exists_text_of_mem_faults {s : Schema} {fields : List (Datum × Datum)}
    (ht : ∀ e ∈ fields, ∃ t, e.1 = .text t) : ∀ f ∈ s.faults fields, ∃ t, f.1 = .text t := by
  intro f hf
  obtain ⟨⟨k, v⟩, hm, hk⟩ := List.mem_filterMap.1 hf
  obtain ⟨fault, -, rfl⟩ := Option.map_eq_some_iff.1 hk
  rcases List.mem_append.1 hm with hm | hm
  · obtain ⟨e, he, heq⟩ := List.mem_map.1 hm
    obtain ⟨rfl, -⟩ := Prod.mk.inj heq
    exact ht e he
  · obtain ⟨⟨name, r⟩, -, hname⟩ := List.mem_filterMap.1 hm
    dsimp only at hname
    split at hname
    · simp at hname
    · obtain ⟨_, -, heq⟩ := Option.map_eq_some_iff.1 hname
      exact ⟨name, (congrArg Prod.fst heq).symm⟩

theorem exists_of_validate {s : Schema} {fields : List (Datum × Datum)} {r : Validation}
    (h : standard.validate s fields = .ok r) : ∃ faults,
      (s.faults fields).foldlM insertFault [] = .ok faults ∧ r = ⟨faults.toData, s.normalized fields⟩ := by
  rw [standard] at h
  cases hf : (s.faults fields).foldlM insertFault [] with
  | error e =>
    simp only [hf] at h
    cases h
  | ok faults =>
    simp only [hf] at h
    exact ⟨faults, rfl, (Except.ok.inj h).symm⟩

theorem isSound_standard : standard.IsSound where
  errors_perm s fields r h := by
    obtain ⟨faults, hf, rfl⟩ := exists_of_validate h
    have hp := foldlM_insertFault_perm hf
    rw [List.append_nil] at hp
    exact hp.map _
  field?_document s fields r h name := by
    obtain ⟨faults, -, rfl⟩ := exists_of_validate h
    rfl
  exists_validation s fields ht := by
    obtain ⟨faults, hf⟩ := exists_foldlM_insertFault (exists_text_of_mem_faults (s := s) ht) []
    refine ⟨⟨faults.toData, s.normalized fields⟩, ?_⟩
    rw [standard]
    simp only [hf]
    rfl

end Validator

end Parametric
