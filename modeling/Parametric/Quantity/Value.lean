import Parametric.Quantity.Spelling
import Parametric.Quantity.Tree
import Parametric.Text.LowerCase
import Parametric.Unit.Name
import Parametric.Unit.Registry

/-! # Values of quantities: magnitudes with powers of units -/
namespace Parametric.Quantity

open Calculation (Fault)

/-- A unit by its name. The difference of two places on a scale with an origin has no origin. -/
structure Factor where
  name : Text
  dimension : Dimension
  hasOrigin : Bool
  isDifference : Bool
  power : Float

inductive Value
  | number (m : Magnitude)
  | quantity (m : Magnitude) (factors : List Factor)

def Factor.isSame (a b : Factor) : Bool := a.name == b.name && a.isDifference == b.isDifference

/-- A product with one more factor; powers of one unit are added, and none is kept for zero. -/
def times (fs : List Factor) (f : Factor) : List Factor :=
  if fs.any (·.isSame f) then
    (fs.map fun g => if g.isSame f then { g with power := g.power + f.power } else g).filter
      (·.power != 0)
  else fs ++ [f]

def raised (y : Float) (fs : List Factor) : List Factor :=
  fs.map fun f => { f with power := f.power * y }

def powerOf (b : Base) (fs : List Factor) : Float :=
  fs.foldl (fun sum f => f.dimension.foldl
    (fun sum (c, y) => if c = b then sum + y * f.power else sum) sum) 0

def bases : List Base :=
  [.current, .length, .time, .mass, .temperature, .substance, .luminosity, .printing]

def sameDimension (fs gs : List Factor) : Bool := bases.all fun b => powerOf b fs == powerOf b gs

def isDimensionless (fs : List Factor) : Bool := sameDimension fs []

def hasOrigin (fs : List Factor) : Bool := fs.any (·.hasOrigin)

/-- The unit with an origin that a product consists of, when it is nothing but that. -/
def soleOrigin? (fs : List Factor) : Option Factor :=
  match fs.filter (·.hasOrigin) with
  | [f] => if f.power == 1 then some f else none
  | _ => none

def hasDifference (fs : List Factor) : Bool := fs.any (·.isDifference)

def difference (fs : List Factor) : List Factor :=
  fs.map fun f => if f.hasOrigin then { f with hasOrigin := false, isDifference := true } else f

def sameUnits (fs gs : List Factor) : Bool :=
  fs.length == gs.length && fs.all fun f => gs.any fun g => f.isSame g && f.power == g.power

def sumUnits (isDifference : Bool) (fs gs : List Factor) : Option (List Factor) :=
  if !hasOrigin fs && !hasOrigin gs then
    some (if sameUnits fs gs then fs else if hasDifference fs && !hasDifference gs then gs else fs)
  else if isDifference && (soleOrigin? fs).isSome && !hasDifference gs then some (difference fs)
  else if isDifference && (soleOrigin? gs).isSome && !hasDifference fs then some fs
  else if (soleOrigin? fs).isSome && hasDifference gs then some fs
  else if (soleOrigin? gs).isSome && hasDifference fs then some gs
  else none

namespace Value

def dimensionless : Value := .quantity (.whole 1) []

def ofUnit (name : Text) (dimension : Dimension) (hasOrigin : Bool) : Value :=
  .quantity (.whole 1) [⟨name, dimension, hasOrigin, false, 1⟩]

def specialReals : List (Text × Float) :=
  [("inf", 1 / 0), ("infinity", 1 / 0), ("nan", 0 / 0)]

def ofName (t : Text) : Except Fault Value :=
  if t == "dimensionless" then .ok dimensionless
  else match specialReals.find? fun s => s.1 == t.lower with
    | some (_, x) => .ok (.number (.real x))
    | none =>
      match Unit.lookup t with
      | .unit dimension hasOrigin => .ok (ofUnit t dimension hasOrigin)
      | .undefined | .scaledOrigin => .error .unreadable

/-- The size of a sum of different units is not followed, unless there is nothing to convert. -/
def sumSize (op : Magnitude → Magnitude → Except Fault Magnitude) (isPlain : Bool)
    (m n : Magnitude) : Except Fault Magnitude :=
  if isPlain || n.isZero then op m n else .ok .other

/-- Zero and not-a-number may be added to any quantity, other numbers to dimensionless ones. -/
def sum (isDifference : Bool) (x y : Value) : Except Fault Value :=
  let op := if isDifference then Magnitude.sub else Magnitude.add
  let mixed (m : Magnitude) (fs : List Factor) (size : Except Fault Magnitude) :
      Except Fault Value :=
    if m.isZero || m.isNaN then do return .quantity (← size) fs
    else if isDimensionless fs then do
      return .quantity (← if hasOrigin fs then .ok .other else size) []
    else .error .unreadable
  match x, y with
  | .number m, .number n => do return .number (← op m n)
  | .quantity m fs, .number n => mixed n fs (op m n)
  | .number m, .quantity n gs => mixed m gs (op m n)
  | .quantity m fs, .quantity n gs =>
    if !sameDimension fs gs then .error .unreadable
    else match sumUnits isDifference fs gs with
      | some units => do return .quantity (← sumSize op (sameUnits fs gs) m n) units
      | none => .error .unreadable

def factorsOf : Value → List Factor
  | .number _ => []
  | .quantity _ fs => fs

def sizeOf : Value → Magnitude
  | .number m => m
  | .quantity m _ => m

def isNumber : Value → Bool
  | .number _ => true
  | .quantity .. => false

/-- A product or, with `sign` minus one, a quotient. Scales with an origin have none. -/
def product (op : Magnitude → Magnitude → Except Fault Magnitude) (sign : Float) (x y : Value) :
    Except Fault Value :=
  if hasOrigin x.factorsOf || hasOrigin y.factorsOf then .error .unreadable
  else do
    let m ← op x.sizeOf y.sizeOf
    if x.isNumber && y.isNumber then return .number m
    else return .quantity m ((raised sign y.factorsOf).foldl times x.factorsOf)

def floorQuotient (x y : Value) : Except Fault Value :=
  if x.isNumber && y.isNumber then do return .number (← Magnitude.floorDiv x.sizeOf y.sizeOf)
  else if !sameDimension x.factorsOf y.factorsOf then .error .unreadable
  else do
    let isPlain := x.sizeOf.isZero || sameUnits x.factorsOf y.factorsOf
    return .quantity (← sumSize Magnitude.floorDiv isPlain x.sizeOf y.sizeOf) []

def remainder (x y : Value) : Except Fault Value :=
  if x.isNumber && y.isNumber then do return .number (← Magnitude.remainder x.sizeOf y.sizeOf)
  else if !sameDimension x.factorsOf y.factorsOf then .error .unreadable
  else do
    let isPlain := x.sizeOf.isZero || sameUnits x.factorsOf y.factorsOf
    return .quantity (← sumSize Magnitude.remainder isPlain x.sizeOf y.sizeOf) x.factorsOf

def exponentFloat : Magnitude → Except Fault Float
  | .whole n => Magnitude.toFloat n
  | .real x => .ok x
  | .other => .ok (0 / 0)

/-- The first power of a quantity is that quantity, its power zero is dimensionless. -/
def power (x y : Value) : Except Fault Value :=
  match x with
  | .number m =>
    if isDimensionless y.factorsOf then do return .number (← Magnitude.power m y.sizeOf)
    else .error .unreadable
  | .quantity m fs =>
    if y.sizeOf.isOne && isDimensionless y.factorsOf then .ok x
    else if y.sizeOf.isZero && !hasOrigin y.factorsOf then .ok (.quantity (.whole 1) [])
    else if hasOrigin fs || !isDimensionless y.factorsOf then .error .unreadable
    else do
      let e ← exponentFloat y.sizeOf
      return .quantity (← Magnitude.power m y.sizeOf) (raised e fs)

def apply (op : Op) (x y : Value) : Except Fault Value :=
  match op with
  | .add => sum false x y
  | .sub => sum true x y
  | .mul => product Magnitude.mul 1 x y
  | .div => product Magnitude.div (-1) x y
  | .floorDiv => floorQuotient x y
  | .remainder => remainder x y
  | .power => power x y

end Value

/-- The left operand is calculated before the right one; a minus sign multiplies. -/
def Tree.value : Tree → Except Fault Value
  | .number (some m) => .ok (.number m)
  | .number none => .error .unreadable
  | .name t => Value.ofName t
  | .unary .add x => x.value
  | .unary .sub x => do Value.product Magnitude.mul 1 (← x.value) (.number (.whole (-1)))
  | .unary _ _ => .error .unreadable
  | .binary op x y => do
    let v ← x.value
    let w ← y.value
    Value.apply op v w

def read (text : Text) : Except Fault Value :=
  if text.isEmpty then .ok Value.dimensionless
  else do
    let ts ← tokens (normalize text)
    let t ← tree ts
    t.value

end Parametric.Quantity

namespace Parametric

def Calculation.Fault.raised : Calculation.Fault → Raised
  | .unreadable => { kind := "PintError" }
  | .missingOperand => { kind := "AssertionError" }
  | .divisionByZero => { kind := "ZeroDivisionError", above := ["ArithmeticError"] }
  | .overflow => { kind := "OverflowError", above := ["ArithmeticError"] }

namespace Registry

def undefinedUnit : Raised where
  kind := "UndefinedUnitError"
  above := ["AttributeError", "PintError"]

def offsetUnit : Raised where
  kind := "OffsetUnitCalculusError"
  above := ["PintTypeError", "PintError", "TypeError"]

/-- A scale with an origin that bears a prefix has no name. -/
def tableName (token : Text) : Except Raised Text :=
  match Unit.lookup token with
  | .unit .. => .ok token
  | .undefined => .error undefinedUnit
  | .scaledOrigin => .error offsetUnit

def tableParse (text : Text) : Except Raised Reading :=
  match Quantity.read text with
  | .ok (.quantity _ fs) => .ok (.quantity (.ok (Quantity.isDimensionless fs)))
  | .ok (.number _) => .ok .other
  | .error f => .error f.raised

/-- One registry that a program can have: a table of units, and calculations that follow the size of a
quantity where its units need no conversion. -/
def table : Registry := ⟨tableName, tableParse⟩

end Registry

end Parametric
