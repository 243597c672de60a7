import Parametric.Proofs.CycleCheck
import Parametric.Proofs.EditStep
import Parametric.Quantity.Value

/-! # Runs of checked edits: what an edit can do to the store, and which cycles a run can lead to -/
namespace Parametric

/-- A host may refuse what it likes; what it takes, it stores as the snapshot itself would. -/
def IsFaithful (host : Host Snapshot) : Prop :=
  ∀ s target formula s', host s target formula = .ok s' → s.withFormula? target formula = some s'

theorem isFaithful_host (refusal : Option Refusal) : IsFaithful (Snapshot.host refusal) := by
  intro s target formula s' h
  cases refusal with
  | some r => simp [Snapshot.host] at h
  | none =>
    unfold Snapshot.host at h
    cases hw : s.withFormula? target formula with
    | none => simp [hw] at h
    | some t => simpa [hw] using h

theorem Snapshot.eq_replace_of_withFormula? {s s' : Snapshot} {p : Parameter}
    {formula : Option Text} (h : s.withFormula? p formula = some s') :
    s.contains p.id = true ∧ s.replace p.id formula = s' := by
  unfold withFormula? at h
  split at h
  · rename_i hid
    exact ⟨hid, Option.some.inj h⟩
  · simp at h

namespace Guard

variable {g : Guard} {σ : Type} {host : Host σ} {s : σ} {ps : List Parameter}

def Stored (g : Guard) (host : Host σ) (s : σ) (ps : List Parameter) (s' : σ) : Prop :=
  s' = s ∨ ∃ target formula, g.Passes ps target formula ∧ host s target formula = .ok s'

theorem stored_run {edit : Edit} (hc : edit.isChecked = true) :
    g.Stored host s ps (g.run host s edit ps).store := by
  have hcourse : g.Course host s ps edit (g.run host s edit ps) := course_run edit
  generalize g.run host s edit ps = a at hcourse ⊢
  cases hcourse with
  | stopped entries hd hr => exact Or.inl rfl
  | called suspicious hp =>
    unfold commit
    split
    · rename_i s' hs
      exact Or.inr ⟨edit.target, written? edit.formula, hp hc, hs⟩
    · exact Or.inl rfl

/-- No edit that passes adds a cycle: those through its target are ruled out, and the others do not
change. -/
theorem elementary_subset_of_passes {s s' : Snapshot} {target : Parameter} {formula : Option Text}
    (hp : g.Passes s.parameters target formula)
    (hs : s.withFormula? target formula = some s') :
    elementary g.dialect s'.parameters ⊆ elementary g.dialect s.parameters := by
  obtain ⟨hid, rfl⟩ := Snapshot.eq_replace_of_withFormula? hs
  have hn : ∀ p ∈ Reference.of g.dialect s.parameters formula,
      ¬ Relation.ReflTransGen (References g.dialect s.parameters) p.id target.id := by
    cases formula with
    | none => simp [Reference.of, written?]
    | some f =>
      obtain ⟨suspicious, hr⟩ := hp f rfl
      have hv := (review_eq_passed hr).2.2
      rcases Cycle.detect_spec g.dialect g.share s target (some f) with
        ⟨_, _, _, _, _, hd, _⟩ | ⟨_, hn⟩
      · rw [verdict, hd] at hv
        simp at hv
      · exact hn
  intro c hc
  exact (mem_elementary_replace_iff hid formula (Cycle.not_mem_elementary hid hn hc)).1 hc

/-- What checked edits can make of a snapshot, each against the parameters as they are by then and
with a host of its own. -/
inductive Reaches (g : Guard) (s : Snapshot) : Snapshot → Prop
  | refl : Reaches g s s
  | edit {t : Snapshot} (h : Reaches g s t) (edit : Edit) (host : Host Snapshot)
      (hc : edit.isChecked = true) (hf : IsFaithful host) :
      Reaches g s (g.run host t edit t.parameters).store

/-- No run of checked edits adds a cycle to the references; without cycles it stays so, also as a
library lists them of the graphs. -/
theorem elementary_subset_of_reaches (g : Guard) {s t : Snapshot} (h : g.Reaches s t) :
    elementary g.dialect t.parameters ⊆ elementary g.dialect s.parameters ∧
      (elementary g.dialect s.parameters = ∅ → elementary g.dialect t.parameters = ∅) ∧
      ∀ (lib : DirectedGraph.Library) (gs gt : Graph), lib.IsSound →
        Graph.build g.dialect s.parameters = .ok gs → Graph.build g.dialect t.parameters = .ok gt →
        gs.cycles lib = [] → gt.cycles lib = [] := by
  have hsub : elementary g.dialect t.parameters ⊆ elementary g.dialect s.parameters := by
    induction h with
    | refl => exact Set.Subset.rfl
    | @edit t _ edit host hc hf ih =>
      have hst : g.Stored host t t.parameters _ := stored_run hc
      rcases hst with hsame | ⟨target, formula, hp, ho⟩
      · rwa [hsame]
      · exact (elementary_subset_of_passes hp (hf _ _ _ _ ho)).trans ih
  refine ⟨hsub, Set.subset_eq_empty hsub, fun lib gs gt hl hs ht hnone => ?_⟩
  rw [(Graph.isBuilt_of_build hs).cycles_eq_nil_iff hl] at hnone
  exact ((Graph.isBuilt_of_build ht).cycles_eq_nil_iff hl).2 (Set.subset_eq_empty hsub hnone)

def three (a b c : Option Text) : Snapshot where
  parameters := [Cycle.plain 1 "A" a, Cycle.plain 2 "B" b, Cycle.plain 3 "C" c]
  ids_nodup := (by decide : [Ident.number 1, .number 2, .number 3].Nodup)
  names_nodup := (by decide : ([some "A", some "B", some "C"] : List (Option Text)).Nodup)

theorem elementary_subset_of_reaches_three :
    (⟨.standard, true, .table⟩ : Guard).Reaches (three none none none) (three (some "B") (some "C") none) ∧
      elementary .standard (three (some "B") (some "C") none).parameters = ∅ ∧
      ∃ gt, Graph.build .standard (three (some "B") (some "C") none).parameters = .ok gt ∧
        gt.cycles .standard = [] := by
  have hf := isFaithful_host none
  have h := (Reaches.refl (g := ⟨.standard, true, .table⟩) (s := three none none none)).edit
    (.set (Cycle.plain 1 "A" none) (some "B")) (Snapshot.host none) rfl hf
  have hfirst : ((⟨.standard, true, .table⟩ : Guard).run (Snapshot.host none) (three none none none)
      (.set (Cycle.plain 1 "A" none) (some "B")) (three none none none).parameters).store =
      three (some "B") none none := by cbv
  rw [hfirst] at h
  have h := h.edit (.set (Cycle.plain 2 "B" none) (some "C")) (Snapshot.host none) rfl hf
  have hsecond : ((⟨.standard, true, .table⟩ : Guard).run (Snapshot.host none) (three (some "B") none none)
      (.set (Cycle.plain 2 "B" none) (some "C")) (three (some "B") none none).parameters).store =
      three (some "B") (some "C") none := by cbv
  rw [hsecond] at h
  obtain ⟨gs, hgs, hbuilt⟩ := Graph.exists_build .standard (three none none none).parameters
    (by decide)
  obtain ⟨gt, hgt, -⟩ := Graph.exists_build .standard
    (three (some "B") (some "C") none).parameters (by decide)
  have hsound := DirectedGraph.Library.isSound_standard
  have hnone : gs.cycles .standard = [] := by
    have hcycles : (Graph.build .standard (three none none none).parameters).map
        (·.cycles .standard) = .ok [] := by cbv
    rw [hgs] at hcycles
    exact Except.ok.inj hcycles
  obtain ⟨-, hacyclic, hlisted⟩ := elementary_subset_of_reaches _ h
  exact ⟨h, hacyclic ((hbuilt.cycles_eq_nil_iff hsound).1 hnone), gt, hgt,
    hlisted _ gs gt hsound hgs hgt hnone⟩

end Guard

end Parametric
