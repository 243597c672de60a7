import Parametric.Report

/-! # Failures to get a dialect, with their messages and reports -/
namespace Parametric.Dialect

/-- `errors` tells for each field of the given mapping what is wrong with it. -/
inductive Failure
  | general (text : Text)
  | file (details : Text) (source : Option Text)
  | schema (errors : List (Datum × Datum)) (source : Option Text)

namespace Failure

def shownSource (source : Option Text) : Text := source.getD "None"

def message : Failure → Text
  | general text => text
  | file details source => "Dialect parsing error in '" ++ shownSource source ++ "': " ++ details
  | schema errors source => "Dialect schema validation failed for '" ++ shownSource source ++ "': " ++
      (Datum.map errors).quoted

/-- Puts a field before the first one whose key is greater. -/
def insertItem (e : Datum × Datum) : List (Datum × Datum) → Option (List (Datum × Datum))
  | [] => some [e]
  | f :: rest => do
    if ← e.1.before? f.1 then return e :: f :: rest
    else return f :: (← insertItem e rest)

def sortItems (errors : List (Datum × Datum)) : Option (List (Datum × Datum)) :=
  errors.foldlM (fun sorted e => insertItem e sorted) []

def lineOf (e : Datum × Datum) : Text := e.1.plain ++ ": " ++ e.2.plain

/-- There is no report on fields whose keys cannot be compared. -/
def report? : Failure → Option Report
  | general text => some
      { kind := "Generic Dialect Error"
        details := text
        suggestion := "Please check the format and content of the dialect configuration."
        context := {} }
  | file details source => some
      { kind := "Dialect File Error"
        details
        suggestion := "Ensure the file exists, is readable, and contains a YAML mapping."
        context := { sourceFile := .ofText? source } }
  | schema errors source => (sortItems errors).map fun sorted =>
      { kind := "Dialect Schema Validation Error"
        details := Text.joined "\n" (sorted.map lineOf)
        suggestion := "'reserved_functions' must be a list of identifiers, 'boundary_chars' a list of " ++
          "single characters other than '\"', and 'extend_defaults' a boolean."
        context := { sourceFile := .ofText? source } }

end Failure

end Parametric.Dialect
