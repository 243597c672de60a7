import Parametric.Raised
import Parametric.Text.Letter

/-! # What is asked of a registry of units, and which of its exceptions count as a no -/
namespace Parametric

/-- What a registry makes of an expression. Whether a quantity has units is asked of it afterwards. -/
inductive Reading
  | quantity (isDimensionless : Except Raised Bool)
  | other

/-- A registry of units. `name` looks a unit up and raises when there is none; which name it gives is
not looked at. `parse` calculates an expression. -/
structure Registry where
  name : Text → Except Raised Text
  parse : Text → Except Raised Reading

namespace Registry

variable (r : Registry)

def maxSuffixLength : Nat := 4

def mayBeSuffix (token : Text) : Bool :=
  !token.isEmpty && token.length ≤ maxSuffixLength && token.all isLetter

def lookupClasses : List Text := ["UndefinedUnitError", "AttributeError", "ValueError"]

/-- Whether a token may be a unit written after a number: short, letters only and known. -/
def isSuffix (token : Text) : Except Raised Bool :=
  if mayBeSuffix token then Raised.orNo lookupClasses ((r.name token).map fun _ => true)
  else .ok false

def parseClasses : List Text :=
  ["PintError", "AttributeError", "TypeError", "ValueError", "SyntaxError", "TokenError"]

/-- Whether a text as a whole is a value with units. The handlers are left by the time a quantity
tells whether it has any. -/
def isValue (text : Text) : Except Raised Bool :=
  match r.parse text with
  | .ok (.quantity isDimensionless) => isDimensionless.map (! ·)
  | .ok .other => .ok false
  | .error e => Raised.orNo parseClasses (.error e)

end Registry

end Parametric
