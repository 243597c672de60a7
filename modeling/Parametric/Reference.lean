import Parametric.Formula.Token
import Parametric.Parameter

/-! # References: which parameters a formula mentions, and what depends on what -/
namespace Parametric.Reference

variable (d : Dialect)

/-- Whether a parameter's name stands delimited in a formula, whatever other names are there. -/
def isNamedIn (p : Parameter) (formula : Option Text) : Bool :=
  match p.name, formula with
  | some name, some f => Formula.mentions d name f
  | _, _ => false

def isNamedBy (p q : Parameter) : Bool := isNamedIn d p (written? q.formula)

/-- What is left of a formula and whose names were found in it so far. -/
structure Sweep where
  text : Text
  found : List Ident

def Sweep.step (s : Sweep) (p : Parameter) : Sweep :=
  match p.name with
  | none => s
  | some name =>
    if Formula.mentions d name s.text then ⟨Formula.mask d name s.text, s.found ++ [p.id]⟩ else s

def nameLength (p : Parameter) : Nat := (p.name.getD []).length

/-- Every name found is masked before shorter ones are looked for. -/
def sweep (ps : List Parameter) (formula : Text) : Sweep :=
  (Formula.longestFirst nameLength ps).foldl (Sweep.step d) ⟨formula, []⟩

/-- The parameters that a formula references, in the order of the list. -/
def of (ps : List Parameter) (formula : Option Text) : List Parameter :=
  match written? formula with
  | none => []
  | some f => Parameter.select (sweep d ps f).found ps

def includes (ps : List Parameter) (formula : Option Text) (p : Parameter) : Bool :=
  (of d ps formula).any (·.id = p.id)

def names (ps : List Parameter) : List Text := ps.filterMap (·.name)

def invalid (ps : List Parameter) (formula : Option Text) : List Text :=
  Formula.invalidTokens d formula (names ps)

def suspicious (ps : List Parameter) (formula : Option Text) : List Text :=
  Formula.suspiciousTokens d formula (names ps)

end Parametric.Reference

namespace Parametric

def dependencies (d : Dialect) (p : Parameter) (ps : List Parameter) : List Parameter :=
  Reference.of d ps p.formula

/-- Whose formula references `p`. Built-in parameters hold no formulas of their own. -/
def dependents (d : Dialect) (p : Parameter) (ps : List Parameter) : List Parameter :=
  ps.filter fun q =>
    !q.isBuiltIn && Reference.isNamedIn d p q.formula && Reference.includes d ps q.formula p

end Parametric
