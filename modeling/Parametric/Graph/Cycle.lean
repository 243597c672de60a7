import Parametric.Graph.Search
import Parametric.Journal
import Parametric.Reference

/-! # Cycles that a new formula would close -/
namespace Parametric.Cycle

/-- The path leads from a direct reference of the new formula to the parameter it is meant for. -/
structure Verdict where
  wouldCycle : Bool
  direct : Option Parameter
  path : List Parameter

namespace Verdict

def none : Verdict := ⟨false, .none, []⟩

def pathNames (v : Verdict) : List (Option Text) := v.path.map (·.name)

def arrow : Text := " -> "

/-- The path as a message shows it, nothing when there is no cycle. -/
def pathText (v : Verdict) : Text :=
  if v.wouldCycle then Text.joined arrow (v.pathNames.map shownName) else []

/-- A path can be shown only if each parameter on it has a name. -/
def isShowable (v : Verdict) : Bool := !v.wouldCycle || v.pathNames.all (·.isSome)

end Verdict

variable (d : Dialect)

/-- The first root that leads to the goal. With `share` the roots have one list of visited
parameters in common. -/
def firstPath (share : Bool) (goal : Ident) (ps : List Parameter) (visited : List Ident) :
    List Parameter → Option (Parameter × List Parameter)
  | [] => none
  | root :: roots =>
    let found := Search.path (dependencies d · ps) goal ps.length root visited
    match found.1 with
    | some path => some (root, path)
    | none => firstPath share goal ps (if share then found.2 else visited) roots

def detect (share : Bool) (target : Parameter) (formula : Option Text) (ps : List Parameter) :
    Verdict :=
  match firstPath d share target.id ps [] (Reference.of d ps formula) with
  | some (root, path) => ⟨true, some root, path⟩
  | none => .none

def entries (target : Parameter) (v : Verdict) : List Entry :=
  if v.wouldCycle then
    [⟨Journal.debug, "formula_guard.formulas.cycles", "Formula for '" ++ shownName target.name ++
      "' would close the cycle " ++ v.pathText⟩]
  else []

end Parametric.Cycle
