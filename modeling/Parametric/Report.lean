import Parametric.Datum

/-! # Reports of what went wrong and what to do about it -/
namespace Parametric

/-- What a report names beside its text; a value that counts for nothing is left out. -/
structure Report.Context where
  code : Datum := .null
  parameter : Datum := .null
  sourceFile : Datum := .null
  formula : Datum := .null

structure Report where
  kind : Text
  details : Text
  suggestion : Text
  context : Report.Context

namespace Report

def contextLine (label mark : Text) (value : Datum) : List Text :=
  if value.isTruthy then [label ++ mark ++ value.plain ++ mark] else []

def indented (t : Text) : List Text := t.lines.map ("  " ++ ·)

def opening : List Text :=
  ["\n", "================ formula-guard: Actionable Diagnostic Report ================"]

def closing : Text :=
  "============================================================================="

def headed (heading : Text) (t : Text) : List Text := heading :: indented t

def render (r : Report) : Text :=
  Text.joined "\n" (opening ++ ["Error Type:     " ++ r.kind] ++
    contextLine "Code:           " [] r.context.code ++
    contextLine "Parameter:      " [] r.context.parameter ++
    contextLine "Source File:    " [] r.context.sourceFile ++
    contextLine "Formula:        " "'" r.context.formula ++
    headed "\nDetails:" r.details ++
    (if r.suggestion.isEmpty then [] else headed "\nSuggestion:" r.suggestion) ++ [closing])

end Report

end Parametric
