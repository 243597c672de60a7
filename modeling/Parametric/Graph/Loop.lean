import Parametric.Report
import Parametric.Graph.Cycle

/-! # Loops found in existing formulas, as they are reported -/
namespace Parametric

/-- The names on a loop; the first one may or may not stand at the end again. -/
structure Loop where
  names : List Text

namespace Loop

/-- The names with the first one at the end, unless it stands there already. -/
def closed (l : Loop) : List Text :=
  match l.names with
  | [] => []
  | n :: rest => if (n :: rest).getLast? = some n then n :: rest else n :: rest ++ [n]

def message (l : Loop) : Text :=
  "Circular reference detected: " ++ Text.joined Cycle.Verdict.arrow l.closed

def report (l : Loop) : Report where
  kind := "Circular Formula Reference"
  details := "The formulas of the following parameters reference each other in a loop:\n" ++
    Text.joined Cycle.Verdict.arrow l.names
  suggestion := "Break the loop by clearing or rewriting the formula of one of the parameters."
  context := { parameter := .ofText? l.names.head? }

end Loop

def analysisReport (text : Text) : Report where
  kind := "Generic Formula Analysis Error"
  details := text
  suggestion := "Review the formulas of the parameters involved."
  context := {}

end Parametric
