import Parametric.Edit.Guard
import Parametric.Proofs.ReferenceRelation

/-! # What the answer to an edit depends on

The checks look at the formula of the edit and at the names and classes of the parameters. Only the
search for cycles looks at formulas that parameters hold. -/
namespace Parametric.Guard

def answer (g : Guard) (target : Parameter) (formula : Text) (unknown : List Text)
    (instances : List (Option Text)) (v : Cycle.Verdict) (suspicious : List Text) : Review :=
  match unknown, instances with
  | t :: ts, _ => g.reviewUnknown target formula (t :: ts)
  | [], n :: ns => .rejected (.instanceReference target.name (n :: ns))
  | [], [] =>
    if v.wouldCycle then
      if v.isShowable then .rejected (.cycle target.name v) else .failed .namelessPath
    else .passed suspicious

variable {g : Guard} {target : Parameter} {formula : Text}

theorem review_eq_answer (ps : List Parameter) :
    g.review target formula ps =
      g.answer target formula (Reference.invalid g.dialect ps (some formula))
        ((g.instanceReferences target formula ps).map (·.name)) (g.verdict target formula ps)
        (Reference.suspicious g.dialect ps (some formula)) := by
  unfold review
  cases Reference.invalid g.dialect ps (some formula) with
  | cons t ts => rfl
  | nil =>
    cases g.instanceReferences target formula ps with
    | cons p rest => rfl
    | nil => rfl

theorem instanceReferences_replace (s : Snapshot) (id : Ident) (f : Option Text) :
    (g.instanceReferences target formula (s.replace id f).parameters).map (·.name) =
      (g.instanceReferences target formula s.parameters).map (·.name) := by
  unfold instanceReferences
  split
  · rfl
  · rw [of_replace, List.filter_map, List.map_map]
    simp [Function.comp_def]

/-- A formula that some parameter holds counts for the verdict on cycles and for nothing else. -/
theorem review_replace (s : Snapshot) (id : Ident) (f : Option Text) :
    g.review target formula (s.replace id f).parameters =
      g.answer target formula (Reference.invalid g.dialect s.parameters (some formula))
        ((g.instanceReferences target formula s.parameters).map (·.name))
        (g.verdict target formula (s.replace id f).parameters)
        (Reference.suspicious g.dialect s.parameters (some formula)) := by
  rw [review_eq_answer, Reference.invalid_replace, instanceReferences_replace,
    Reference.suspicious_replace]

end Parametric.Guard
