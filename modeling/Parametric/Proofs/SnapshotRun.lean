import Parametric.Proofs.FirstAppearance
import Parametric.Proofs.ReferenceRelation
import Parametric.Proofs.Replacement

/-! # Snapshots made from a list, and what any number of new formulas leaves of the list -/
namespace Parametric

namespace Snapshot

variable {ps : List Parameter} {s t : Snapshot}

theorem ofList_eq_ok_iff : ofList ps = .ok s ↔ s.parameters = ps := by
  constructor
  · intro h
    unfold ofList at h
    split at h
    · simp at h
    · rw [← Except.ok.inj h]
  · rintro rfl
    have hnone : Duplicate.after? [] s.parameters = none :=
      (Duplicate.after?_eq_none_iff [] s.parameters).2
        ⟨⟨s.ids_nodup, by simp⟩, s.names_nodup, by simp⟩
    unfold ofList
    split
    · rename_i h
      simp [hnone] at h
    · rfl

theorem withFormula?_eq_none_iff {p : Parameter} {formula : Option Text} :
    t.withFormula? p formula = none ↔ p.id ∉ t.parameters.map (·.id) := by
  simp [withFormula?, ← contains_iff]

theorem withFormula?_comm {p q : Parameter} (hne : p.id ≠ q.id) (f f' : Option Text) :
    (t.withFormula? p f).bind (·.withFormula? q f') =
      (t.withFormula? q f').bind (·.withFormula? p f) := by
  by_cases hp : t.contains p.id = true
  · by_cases hq : t.contains q.id = true
    · simp [withFormula?, hp, hq, contains_replace, replace_comm t hne]
    · simp [withFormula?, hp, hq, contains_replace]
  · by_cases hq : t.contains q.id = true
    · simp [withFormula?, hp, hq, contains_replace]
    · simp [withFormula?, hp, hq]

theorem withFormula?_again {p q : Parameter} (he : p.id = q.id) (f f' : Option Text) :
    (t.withFormula? p f).bind (·.withFormula? q f') = t.withFormula? q f' := by
  by_cases hq : t.contains q.id = true
  · simp [withFormula?, he, hq, contains_replace, replace_replace]
  · simp [withFormula?, he, hq]

/-- Calls for a new formula, one after the other. One that fails leaves the snapshot as it is. -/
def rewritten (s : Snapshot) (calls : List (Parameter × Option Text)) : Snapshot :=
  calls.foldl (fun t call => (t.withFormula? call.1 call.2).getD t) s

/-- The parameters of a list in the list's order, each with the formula that it has by now. -/
def IsOf (ps : List Parameter) (t : Snapshot) : Prop :=
  t.parameters.map Parameter.bare = ps.map Parameter.bare

theorem IsOf.withFormula (h : IsOf ps t) (p : Parameter) (formula : Option Text) :
    IsOf ps ((t.withFormula? p formula).getD t) := by
  unfold withFormula?
  split
  · exact (bare_parameters_replace t p.id formula).trans h
  · exact h

theorem IsOf.rewritten (h : IsOf ps t) (calls : List (Parameter × Option Text)) :
    IsOf ps (t.rewritten calls) := by
  induction calls generalizing t with
  | nil => exact h
  | cons call calls ih => exact ih (h.withFormula call.1 call.2)

theorem IsOf.map_eq (h : IsOf ps t) {α : Type} {f : Parameter → α} (hf : ∀ p, f p.bare = f p) :
    t.parameters.map f = ps.map f := by
  have hbare (qs : List Parameter) : (qs.map Parameter.bare).map f = qs.map f := by
    simp [Function.comp_def, hf]
  rw [← hbare, ← hbare ps, h]

end Snapshot

namespace Reference

variable (d : Dialect)

theorem ids_of_bare (ps : List Parameter) (formula : Option Text) :
    (Reference.of d (ps.map Parameter.bare) formula).map (·.id) =
      (Reference.of d ps formula).map (·.id) := by
  rw [of_map d (r := Parameter.bare) (fun _ => rfl) (fun _ => rfl), List.map_map]
  rfl

end Reference

namespace Snapshot

variable {ps : List Parameter} {t : Snapshot}

/-- What a snapshot that began as a list still has of it, and what one more formula changes. -/
structure Tracks (ps : List Parameter) (t : Snapshot) : Prop where
  /-- Identities, names, classes, data types and their order are those of the list. -/
  isOf : IsOf ps t
  byId : ∀ id p, t.byId? id = some p ↔ p ∈ t.parameters ∧ p.id = id
  byId_none : ∀ id, t.byId? id = none ↔ id ∉ ps.map (·.id)
  byName : ∀ name p, t.byName? name = some p ↔ p ∈ t.parameters ∧ p.name = name
  byName_none : ∀ name, t.byName? name = none ↔ name ∉ ps.map (·.name)
  referenced : ∀ d formula, (Reference.of d t.parameters formula).map (·.id) =
    (Reference.of d ps formula).map (·.id)
  foreign : ∀ p formula, t.withFormula? p formula = none ↔ p.id ∉ ps.map (·.id)
  /-- The parameters with the new formula pass the search for repetitions once more. -/
  replaced : ∀ p formula u, t.withFormula? p formula = some u →
    ofList (t.parameters.map fun q =>
      if q.id = p.id then { q with formula := written? formula } else q) = .ok u
  comm : ∀ p q f f', p.id ≠ q.id → (t.withFormula? p f).bind (·.withFormula? q f') =
    (t.withFormula? q f').bind (·.withFormula? p f)
  again : ∀ p q f f', p.id = q.id →
    (t.withFormula? p f).bind (·.withFormula? q f') = t.withFormula? q f'

theorem IsOf.tracks (h : IsOf ps t) : Tracks ps t where
  isOf := h
  byId _ _ := find?_key_eq_some_iff t.ids_nodup
  byId_none id := by
    rw [← h.map_eq fun _ => rfl]
    exact find?_key_eq_none_iff
  byName _ _ := find?_key_eq_some_iff t.names_nodup
  byName_none name := by
    rw [← h.map_eq fun _ => rfl]
    exact find?_key_eq_none_iff
  referenced d formula := by
    rw [← Reference.ids_of_bare, h, Reference.ids_of_bare]
  foreign p formula := by
    rw [← h.map_eq fun _ => rfl]
    exact withFormula?_eq_none_iff
  replaced p formula u hu := by
    unfold withFormula? at hu
    split at hu
    · rw [← Option.some.inj hu, ofList_eq_ok_iff]
      rfl
    · simp at hu
  comm _ _ f f' hne := withFormula?_comm hne f f'
  again _ _ f f' he := withFormula?_again he f f'

/-- A list without a repeated identity or name is a snapshot, and any other list is none. Whatever
formulas are set in it, the snapshot goes on to be one of that list. -/
theorem ofList_tracks (ps : List Parameter) :
    ((ofList ps).isOk ↔ (ps.map (·.id)).Nodup ∧ (ps.map (·.name)).Nodup) ∧
      ∀ s, ofList ps = .ok s →
        s.parameters = ps ∧ ∀ calls, Tracks ps (s.rewritten calls) := by
  refine ⟨ofList_isOk_iff ps, fun s h => ?_⟩
  have hs : s.parameters = ps := ofList_eq_ok_iff.1 h
  have hof : IsOf ps s := congrArg (List.map Parameter.bare) hs
  exact ⟨hs, fun calls => (hof.rewritten calls).tracks⟩

def sizes : Snapshot where
  parameters := [⟨.number 1, some "Width", false, .text "Length", none, false⟩,
    ⟨.text "1", some "Height", true, .null, some "2 * Width", false⟩]
  ids_nodup := (by decide : [Ident.number 1, .text "1"].Nodup)
  names_nodup := (by decide : ([some "Width", some "Height"] : List (Option Text)).Nodup)

theorem ofList_tracks_sizes :
    let width : Parameter := ⟨.number 1, none, true, .null, none, false⟩
    let stranger : Parameter := ⟨.number 2, some "Height", true, .null, none, false⟩
    let height : Parameter := ⟨.text "1", some "Depth", true, .null, none, false⟩
    ofList sizes.parameters = .ok sizes ∧
      Tracks sizes.parameters
        (sizes.rewritten [(width, some "Height"), (stranger, some "1"), (height, some " ")]) ∧
      (sizes.rewritten [(width, some "Height"), (stranger, some "1"), (height, some " ")]).byId?
        (.number 1) = some ⟨.number 1, some "Width", false, .text "Length", some "Height", false⟩ := by
  intro width stranger height
  have hs : ofList sizes.parameters = .ok sizes := ofList_eq_ok_iff.2 rfl
  have ht := ((ofList_tracks sizes.parameters).2 sizes hs).2
    [(width, some "Height"), (stranger, some "1"), (height, some " ")]
  exact ⟨hs, ht, (ht.byId _ _).2 ⟨List.mem_cons_self, rfl⟩⟩

end Snapshot

end Parametric
