import Parametric.Datum

/-! # Parameters of a parametric model -/
namespace Parametric

/-- What tells parameters apart. A number and a text never coincide. -/
inductive Ident
  | absent
  | number (n : Int)
  | text (t : Text)
  deriving DecidableEq

namespace Ident

def quoted : Ident → Text
  | absent => "None"
  | number n => Text.ofInt n
  | text t => t.quoted

end Ident

/-- An instance parameter has a value per placed object, any other one value per type. -/
structure Parameter where
  id : Ident
  name : Option Text
  isInstance : Bool
  dataType : Datum
  formula : Option Text
  isBuiltIn : Bool

def shownName (name : Option Text) : Text := name.getD "None"

namespace Parameter

def hasFormula (p : Parameter) : Bool := (written? p.formula).isSome

def shown (p : Parameter) : Text :=
  shownName p.name ++ if p.isInstance then " (instance)" else " (type)"

def select (ids : List Ident) (ps : List Parameter) : List Parameter :=
  ps.filter fun p => p.id ∈ ids

def named? (ps : List Parameter) (name : Text) : Option Parameter :=
  ps.find? fun p => p.name = some name

end Parameter

end Parametric
