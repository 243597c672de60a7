import Parametric.Proofs.DepthFirst
import Parametric.Proofs.Sweep
import Parametric.Reference

/-! # Which parameter references which, before and after an edit -/
namespace Parametric

/-- The formula of the first parameter references the second one, both given by identities. -/
def References (d : Dialect) (ps : List Parameter) (a b : Ident) : Prop :=
  ∃ p ∈ ps, p.id = a ∧ b ∈ (dependencies d p ps).map (·.id)

namespace Reference

variable (d : Dialect)

theorem of_sublist (ps : List Parameter) (formula : Option Text) :
    (Reference.of d ps formula).Sublist ps := by
  unfold Reference.of
  split
  · exact List.nil_sublist ps
  · exact List.filter_sublist

theorem of_subset (ps : List Parameter) (formula : Option Text) : Reference.of d ps formula ⊆ ps :=
  (of_sublist d ps formula).subset

theorem of_written? (ps : List Parameter) (formula : Option Text) :
    Reference.of d ps (written? formula) = Reference.of d ps formula := by
  rw [Reference.of, written?_written?, Reference.of]

/-- Only names and identities count in the search for references. -/
theorem of_map {r : Parameter → Parameter} (hid : ∀ p, (r p).id = p.id)
    (hname : ∀ p, (r p).name = p.name) (ps : List Parameter) (formula : Option Text) :
    Reference.of d (ps.map r) formula = (Reference.of d ps formula).map r := by
  have hlength : ∀ p q, some (r p) = some q → nameLength q = nameLength p := by
    rintro p _ ⟨rfl⟩
    rw [nameLength, nameLength, hname]
  have hsort : (Formula.longestFirst nameLength ps).map r =
      Formula.longestFirst nameLength (ps.map r) := by
    have h := Formula.longestFirst_filterMap nameLength hlength ps
    simpa only [List.filterMap_eq_map'] using h
  have hstep : (fun s p => Sweep.step d s (r p)) = Sweep.step d := by
    funext s p
    rw [Sweep.step, Sweep.step, hname, hid]
  have hsweep : ∀ f, sweep d (ps.map r) f = sweep d ps f := by
    intro f
    rw [sweep, ← hsort, List.foldl_map, hstep, sweep]
  unfold Reference.of
  split
  · rfl
  · rw [hsweep, Parameter.select, Parameter.select, List.filter_map]
    congr 2
    funext p
    simp [hid]

end Reference

variable {d : Dialect} {ps : List Parameter}

theorem searchable (s : Snapshot) : Search.Searchable (dependencies d · s.parameters) s.parameters :=
  ⟨s.ids_nodup, fun p => Reference.of_sublist d s.parameters p.formula⟩

theorem References.mem_ids {a b : Ident} (h : References d ps a b) :
    a ∈ ps.map (·.id) ∧ b ∈ ps.map (·.id) := by
  obtain ⟨p, hp, rfl, hb⟩ := h
  exact ⟨List.mem_map_of_mem hp, ((Reference.of_sublist d ps p.formula).map (·.id)).subset hb⟩

theorem of_replace (d : Dialect) (s : Snapshot) (id : Ident) (formula f : Option Text) :
    Reference.of d (s.replace id formula).parameters f =
      (Reference.of d s.parameters f).map (Snapshot.replaced id formula) :=
  Reference.of_map d (Snapshot.replaced_id id formula) (Snapshot.replaced_name id formula)
    s.parameters f

theorem ids_of_replace (d : Dialect) (s : Snapshot) (id : Ident) (formula f : Option Text) :
    (Reference.of d (s.replace id formula).parameters f).map (·.id) =
      (Reference.of d s.parameters f).map (·.id) := by
  rw [of_replace, List.map_map]
  congr 1
  funext p
  exact Snapshot.replaced_id id formula p

namespace Reference

theorem names_replace (s : Snapshot) (id : Ident) (formula : Option Text) :
    names (s.replace id formula).parameters = names s.parameters := by
  simp [names, Snapshot.replace, List.filterMap_map]

theorem invalid_replace (d : Dialect) (s : Snapshot) (id : Ident) (formula f : Option Text) :
    invalid d (s.replace id formula).parameters f = invalid d s.parameters f := by
  rw [invalid, invalid, names_replace]

theorem suspicious_replace (d : Dialect) (s : Snapshot) (id : Ident) (formula f : Option Text) :
    suspicious d (s.replace id formula).parameters f = suspicious d s.parameters f := by
  rw [suspicious, suspicious, names_replace]

end Reference

theorem references_replace {s : Snapshot} {id : Ident} (hid : s.contains id = true)
    (formula : Option Text) (a b : Ident) :
    References d (s.replace id formula).parameters a b ↔
      (a = id ∧ b ∈ (Reference.of d s.parameters formula).map (·.id)) ∨
        (a ≠ id ∧ References d s.parameters a b) := by
  simp only [References, dependencies, ids_of_replace]
  constructor
  · rintro ⟨_, hr, rfl, hb⟩
    obtain ⟨p, hp, rfl⟩ := List.mem_map.1 hr
    rw [Snapshot.replaced_id]
    unfold Snapshot.replaced at hb
    by_cases hi : p.id = id
    · rw [if_pos hi, Reference.of_written?] at hb
      exact Or.inl ⟨hi, hb⟩
    · rw [if_neg hi] at hb
      exact Or.inr ⟨hi, p, hp, rfl, hb⟩
  · rintro (⟨rfl, hb⟩ | ⟨hi, p, hp, rfl, hb⟩)
    · obtain ⟨p, hp, hi⟩ := List.any_eq_true.1 hid
      refine ⟨_, List.mem_map_of_mem hp, by simpa using hi, ?_⟩
      unfold Snapshot.replaced
      rw [if_pos (of_decide_eq_true hi), Reference.of_written?]
      exact hb
    · refine ⟨_, List.mem_map_of_mem hp, by simp, ?_⟩
      unfold Snapshot.replaced
      rw [if_neg hi]
      exact hb

end Parametric
