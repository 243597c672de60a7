import Parametric.Graph.Loop

/-! # Chains of formulas that are each one name -/
namespace Parametric.Chain

def isConstant (d : Dialect) (ps : List Parameter) (formula : Option Text) : Bool :=
  (written? formula).isSome && (Reference.of d ps formula).isEmpty

/-- The one parameter that a formula references, if the formula is its name and nothing else. -/
def single? (d : Dialect) (ps : List Parameter) (formula : Option Text) : Option Parameter :=
  match written? formula, Reference.of d ps formula with
  | some f, [p] => if p.name = some f.trim then some p else none
  | _, _ => none

theorem single?_eq_some_iff {d : Dialect} {ps : List Parameter} {formula : Option Text}
    {p : Parameter} : single? d ps formula = some p ↔
      ∃ f, written? formula = some f ∧ Reference.of d ps formula = [p] ∧ p.name = some f.trim := by
  unfold single?
  split
  · rename_i f q hf hq
    simp only [hf, hq, Option.some.injEq, List.cons.injEq, and_true, exists_eq_left']
    grind
  · rename_i hno
    refine ⟨fun h => by simp at h, fun ⟨f, hf, hp, _⟩ => absurd hp (hno f p hf)⟩

inductive Course
  | ends (passed : List Parameter) (source : Parameter) (constant : Bool)
  | loops (passed : List Parameter) (again : Parameter)

variable (d : Dialect) (ps : List Parameter)

/-- `passed` holds the parameters before `current`, in order. -/
def follow : Nat → List Parameter → Parameter → Course
  | 0, passed, current => .loops passed current
  | fuel + 1, passed, current =>
    if current.id ∈ passed.map (·.id) then .loops passed current
    else match single? d ps current.formula with
      | some p => follow fuel (passed ++ [current]) p
      | none => .ends passed current (isConstant d ps current.formula)

/-- From a parameter to where its value comes from. A chain of more steps than there are parameters
comes back to one of them. -/
def course (p : Parameter) : Course := follow d ps (ps.length + 2) [] p

namespace Course

def loopOf (passed : List Parameter) (again : Parameter) : Loop :=
  ⟨((passed.dropWhile (·.id != again.id)) ++ [again]).map fun p => shownName p.name⟩

def steps : Course → List (Parameter × Parameter)
  | ends passed source _ => passed.zip (passed.tail ++ [source])
  | loops passed again => passed.zip (passed.tail ++ [again])

def entries (c : Course) : List Entry :=
  c.steps.map fun (p, q) => ⟨Journal.debug, "formula_guard.formulas.analysis",
    "Chain step: '" ++ shownName p.name ++ "' -> '" ++ shownName q.name ++ "'"⟩

end Course

end Parametric.Chain
