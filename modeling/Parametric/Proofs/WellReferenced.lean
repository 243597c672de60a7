import Parametric.Proofs.EditReview
import Parametric.Proofs.EditRun

/-! # Formulas that name what there is, and type parameters without references to instance ones

Both depend on the names and the classes of the parameters, which no edit changes. -/
namespace Parametric

/-- No formula names anything unknown, and formulas of type parameters reference type parameters
only. -/
structure WellReferenced (d : Dialect) (ps : List Parameter) : Prop where
  known : ∀ p ∈ ps, Reference.invalid d ps p.formula = []
  typed : ∀ p ∈ ps, p.isInstance = false → ∀ q ∈ dependencies d p ps, q.isInstance = false

namespace Reference

variable (d : Dialect)

theorem invalid_of_not_written {formula : Option Text} (h : written? formula = none)
    (ps : List Parameter) : invalid d ps formula = [] := by
  simp [invalid, Formula.invalidTokens, Formula.unknownTokens, h]

theorem invalid_written? (ps : List Parameter) (formula : Option Text) :
    invalid d ps (written? formula) = invalid d ps formula := by
  simp [invalid, Formula.invalidTokens, Formula.unknownTokens]

end Reference

theorem WellReferenced.replace {d : Dialect} {s : Snapshot} (h : WellReferenced d s.parameters)
    {id : Ident} {formula : Option Text} (hk : Reference.invalid d s.parameters formula = [])
    (ht : ∀ p ∈ s.parameters, p.id = id → p.isInstance = false →
      ∀ q ∈ Reference.of d s.parameters formula, q.isInstance = false) :
    WellReferenced d (s.replace id formula).parameters where
  known r hr := by
    obtain ⟨p, hp, rfl⟩ := List.mem_map.1 hr
    rw [Reference.invalid_replace, Snapshot.replaced_formula]
    split
    · rw [Reference.invalid_written?, hk]
    · exact h.known p hp
  typed r hr hi q hq := by
    obtain ⟨p, hp, rfl⟩ := List.mem_map.1 hr
    rw [Snapshot.replaced_isInstance] at hi
    rw [dependencies, of_replace, Snapshot.replaced_formula] at hq
    obtain ⟨q', hq', rfl⟩ := List.mem_map.1 hq
    rw [Snapshot.replaced_isInstance]
    split at hq'
    · rename_i hid
      rw [Reference.of_written?] at hq'
      exact ht p hp hid hi q' hq'
    · exact h.typed p hp hi q' hq'

namespace Guard

variable {g : Guard}

theorem Passes.wellReferenced {ps : List Parameter} {target : Parameter} {formula : Option Text}
    (h : g.Passes ps target formula) :
    Reference.invalid g.dialect ps formula = [] ∧
      (target.isInstance = false →
        ∀ q ∈ Reference.of g.dialect ps formula, q.isInstance = false) := by
  cases formula with
  | none => exact ⟨Reference.invalid_of_not_written g.dialect rfl ps, by simp [Reference.of]⟩
  | some f =>
    obtain ⟨suspicious, hr⟩ := h f rfl
    obtain ⟨hi, hn, -⟩ := review_eq_passed hr
    refine ⟨hi, fun ht q hq => ?_⟩
    simp only [instanceReferences, ht, Bool.false_eq_true, if_false, List.filter_eq_nil_iff] at hn
    simpa using hn q hq

/-- An edit takes its target for what the snapshot has it for, a type or an instance parameter. -/
def KnowsClass (t : Snapshot) (edit : Edit) : Prop :=
  ∀ p ∈ t.parameters, p.id = edit.target.id → p.isInstance = edit.target.isInstance

/-- What checked edits can make of a snapshot when each of them knows the class of its target. The
host is another one at each step and may refuse. -/
inductive ReachesKnowingly (g : Guard) (s : Snapshot) : Snapshot → Prop
  | refl : ReachesKnowingly g s s
  | edit {t : Snapshot} (h : ReachesKnowingly g s t) (edit : Edit) (host : Host Snapshot)
      (hc : edit.isChecked = true) (hf : IsFaithful host) (hk : KnowsClass t edit) :
      ReachesKnowingly g s (g.run host t edit t.parameters).store

theorem wellReferenced_run {t : Snapshot} (h : WellReferenced g.dialect t.parameters)
    {edit : Edit} {host : Host Snapshot} (hc : edit.isChecked = true) (hf : IsFaithful host)
    (hk : KnowsClass t edit) :
    WellReferenced g.dialect (g.run host t edit t.parameters).store.parameters := by
  have hcourse : g.Course host t t.parameters edit _ := course_run edit
  generalize g.run host t edit t.parameters = a at hcourse ⊢
  cases hcourse with
  | stopped entries hd hr => exact h
  | called suspicious hp =>
    unfold commit
    split
    · rename_i t' ho
      obtain ⟨-, rfl⟩ := Snapshot.eq_replace_of_withFormula? (hf _ _ _ _ ho)
      obtain ⟨hi, ht⟩ := (hp hc).wellReferenced
      exact h.replace hi fun p hm hid hp => ht (hk p hm hid ▸ hp)
    · exact h

/-- Checked edits never lead to a formula with an unknown name or to a type parameter that
references an instance parameter. -/
theorem wellReferenced_of_reaches (g : Guard) {s t : Snapshot}
    (hs : WellReferenced g.dialect s.parameters) (h : g.ReachesKnowingly s t) :
    WellReferenced g.dialect t.parameters := by
  induction h with
  | refl => exact hs
  | edit _ edit host hc hf hk ih => exact wellReferenced_run ih hc hf hk

def classes (height : Option Text) : Snapshot where
  parameters := [Cycle.plain 1 "Width" none, Cycle.plain 2 "Offset" (some "Width + 1"),
    ⟨.number 3, some "Height", true, .null, height, false⟩]
  ids_nodup := by simp [Cycle.plain]
  names_nodup := by simp [Cycle.plain]

theorem invalid_classes :
    Reference.invalid .standard (classes none).parameters (some "Width + 1") = [] := by
  have hsort : Formula.longestFirst List.length [("Width" : Text), "Offset", "Height"] =
      ["Offset", "Height", "Width"] := by cbv
  have hmask : Formula.maskAll .standard ["Width", "Offset", "Height"] "Width + 1" =
      ("      + 1" : Text) := by
    change (Formula.longestFirst List.length [("Width" : Text), "Offset", "Height"]).foldl _ _ = _
    rw [hsort]
    decide +kernel
  change ((Formula.tokens .standard (Formula.maskAll .standard ["Width", "Offset", "Height"]
    "Width + 1")).filter (Formula.mayBeName .standard)).eraseDups = []
  rw [hmask]
  decide +kernel

theorem wellReferenced_classes : WellReferenced .standard (classes none).parameters := by
  have hof : Reference.of .standard (classes none).parameters (some "Width + 1") =
      [Cycle.plain 1 "Width" none] := by cbv
  constructor
  · simp only [classes, List.forall_mem_cons, List.not_mem_nil, false_imp_iff, implies_true,
      and_true]
    exact ⟨rfl, invalid_classes, rfl⟩
  · simp only [classes, List.forall_mem_cons, List.not_mem_nil, false_imp_iff, implies_true,
      and_true]
    refine ⟨fun _ q hq => ?_, fun _ q hq => ?_, fun h => by simp at h⟩
    · simp [dependencies, Cycle.plain, Reference.of] at hq
    · obtain rfl : q = Cycle.plain 1 "Width" none := List.mem_singleton.1 (hof ▸ hq)
      rfl

theorem wellReferenced_of_reaches_classes :
    WellReferenced .standard (classes none).parameters ∧
      (⟨.standard, false, .table⟩ : Guard).ReachesKnowingly (classes none) (classes (some "Width + 1")) ∧
      WellReferenced .standard (classes (some "Width + 1")).parameters := by
  let height : Parameter := ⟨.number 3, some "Height", true, .null, none, false⟩
  let offset : Parameter := Cycle.plain 2 "Offset" (some "Width + 1")
  let refusal : Refusal := ⟨"RuntimeError", List.cons_ne_nil _ _, .ok "locked"⟩
  have hknown : KnowsClass (classes none) (.copy height offset) :=
    (by decide : ∀ p ∈ (classes none).parameters, p.id = .number 3 → p.isInstance = true)
  have h := (ReachesKnowingly.refl (g := ⟨.standard, false, .table⟩) (s := classes none)).edit
    (.copy height offset) (Snapshot.host none) rfl (isFaithful_host none) hknown
  have hverdict : ((⟨.standard, false, .table⟩ : Guard).verdict height "Width + 1"
      (classes none).parameters).wouldCycle = false := by cbv
  have hreview : (⟨.standard, false, .table⟩ : Guard).review height "Width + 1"
      (classes none).parameters = .passed (Reference.suspicious .standard (classes none).parameters
        (some "Width + 1")) := by
    have hinstances : (⟨.standard, false, .table⟩ : Guard).instanceReferences height "Width + 1"
        (classes none).parameters = [] := if_pos rfl
    rw [review_eq_answer, invalid_classes, hinstances]
    exact if_neg (Bool.eq_false_iff.1 hverdict)
  have hcopy : ((⟨.standard, false, .table⟩ : Guard).run (Snapshot.host none) (classes none)
      (.copy height offset) (classes none).parameters).store = classes (some "Width + 1") := by
    change ((⟨.standard, false, .table⟩ : Guard).set (Snapshot.host none) (classes none) height
      (some "Width + 1") (classes none).parameters).store = _
    have hwritten : written? (some ("Width + 1" : Text)) = some ("Width + 1" : Text) := rfl
    rw [set, hwritten]
    simp only [hreview]
    rfl
  rw [hcopy] at h
  have hknown : KnowsClass (classes (some "Width + 1")) (.clear offset) :=
    (by decide : ∀ p ∈ (classes (some "Width + 1")).parameters,
      p.id = .number 2 → p.isInstance = false)
  have h := h.edit (.clear offset) (Snapshot.host (some refusal)) rfl
    (isFaithful_host (some refusal)) hknown
  exact ⟨wellReferenced_classes, h, wellReferenced_of_reaches _ wellReferenced_classes h⟩

end Guard

end Parametric
