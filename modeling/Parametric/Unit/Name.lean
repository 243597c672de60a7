import Parametric.Unit.Table

/-! # Looking up the name of a unit -/
namespace Parametric.Unit

def words (t : Text) : List Text := t.cutBy (· == ' ')

inductive Lookup
  | unit (dimension : Dimension) (hasOrigin : Bool)
  | undefined
  | scaledOrigin
  deriving Inhabited

def row? (name : Text) : Option Row := rows.find? fun r => name ∈ words r.names

def stem? (before after name : Text) : Option Text :=
  let rest := name.drop before.length
  if before.isPrefixOf name && after.isSuffixOf rest then
    some (rest.take (rest.length - after.length))
  else none

/-- A plural has more than one letter before its `s`. -/
def stemRow? (before after name : Text) : Option (Text × Row) :=
  match stem? before after name with
  | some stem =>
    if after.isEmpty || 1 < stem.length then (row? stem).map fun r => (stem, r) else none
  | none => none

def found (before stem : Text) (r : Row) : Lookup :=
  let origin := stem ∈ originNames
  if origin && !before.isEmpty then .scaledOrigin else .unit r.dimension origin

/-- Every prefix is tried without a plural first. A scale with an origin takes no prefix. -/
def lookup (name : Text) : Lookup :=
  match row? name with
  | some r => found [] name r
  | none =>
    let befores := words prefixNames
    let tries := befores.map (·, ([] : Text)) ++ ([] :: befores).map (·, ['s'])
    match tries.findSome? fun (b, a) => (stemRow? b a name).map fun (stem, r) => found b stem r with
    | some l => l
    | none => .undefined

end Parametric.Unit
