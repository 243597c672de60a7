import Parametric.Dialect.Load
import Parametric.Yaml.Value

/-! # A validator and a reader of files -/
namespace Parametric

namespace Validator

/-- Texts come first, then numbers, then the rest. -/
def place (key : Datum) : Nat :=
  match key.rank? with
  | some .text => 0
  | some .number => 1
  | _ => 2

def comesBefore (a b : Datum) : Bool :=
  place a < place b || (place a == place b && a.before? b == some true)

def unordered : Raised := { kind := "TypeError" }

/-- Errors are kept in order, so that a key is compared with the others, unless it is a text or a
number. -/
def insertFault (faults : Faults) (f : Datum × FieldFault) : Except Raised Faults :=
  if place f.1 == 2 && faults.any fun g => (f.1.before? g.1).isNone then .error unordered
  else
    let (before, after) := faults.span fun g => !comesBefore f.1 g.1
    .ok (before ++ f :: after)

/-- One validator that a program can have. -/
def standard : Validator where
  validate s fields := do
    let faults ← (s.faults fields).foldlM insertFault []
    return ⟨faults.toData, s.normalized fields⟩

end Validator

def Yaml.Fault.raised : Yaml.Fault → Raised
  | .malformed => { kind := "YAMLError" }
  | .badCodePoint | .badNumber | .badMoment => { kind := "ValueError" }
  | .emptyNumber => { kind := "IndexError", above := ["LookupError"] }
  | .badTruth => { kind := "KeyError", above := ["LookupError"] }
  | .noMoment => { kind := "AttributeError" }
  | .noText => { kind := "TypeError" }
  | .overflow => { kind := "OverflowError", above := ["ArithmeticError"] }

namespace Dialect.Loader

def undecodable : Raised where
  kind := "UnicodeDecodeError"
  above := ["UnicodeError", "ValueError"]

def standardRead (s : TextStream) : Except Raised Datum :=
  if s.isBroken then .error undecodable
  else match Yaml.read s.text with
    | .ok value => .ok value
    | .error f => .error f.raised

/-- One loader that a program can have. -/
def standard : Loader := ⟨standardRead, .standard⟩

end Dialect.Loader

end Parametric
