import Parametric.Text.LowerCase
import Parametric.Text.Quoted
import Parametric.Datum

/-! # Dialects: the boundary characters and the reserved functions of a formula language -/
namespace Parametric

def literalQuote : Char := '"'

/-- Both lists count as sets. The quote opens and closes literals, so it delimits no name. -/
structure Dialect where
  reserved : List Text
  boundary : List Char
  quote_notMem : literalQuote ∉ boundary

namespace Dialect

inductive Fault
  | notSingle (texts : List Text)
  | quote

def Fault.message : Fault → Text
  | notSingle ts => "Boundary characters must be single characters, got: " ++
      (Datum.list (ts.map .text)).quoted
  | quote => "The double quote delimits string literals and cannot be a boundary character."

theorem quote_notMem_flatten {boundary : List Text}
    (hs : (boundary.filter (·.length != 1)).isEmpty) (hq : [literalQuote] ∉ boundary) :
    literalQuote ∉ boundary.flatten.eraseDups := by
  intro h
  obtain ⟨t, ht, hc⟩ := List.mem_flatten.1 (List.mem_eraseDups.1 h)
  have hl : t.length = 1 := by
    simpa using List.filter_eq_nil_iff.1 (List.isEmpty_iff.1 hs) t ht
  obtain ⟨c, rfl⟩ := List.length_eq_one_iff.1 hl
  rw [List.mem_singleton.1 hc] at hq
  exact hq ht

/-- A dialect whose boundaries are given as texts of one character each. -/
def ofTexts (reserved boundary : List Text) : Except Fault Dialect :=
  let bad := boundary.filter (·.length != 1)
  if hs : bad.isEmpty then
    if hq : [literalQuote] ∈ boundary then .error .quote
    else .ok ⟨reserved.eraseDups, boundary.flatten.eraseDups, quote_notMem_flatten hs hq⟩
  else .error (.notSingle (Text.sorted bad.eraseDups))

def boundaryTexts (d : Dialect) : List Text := d.boundary.map ([·])

def extended (d : Dialect) (reserved boundary : List Text) : Except Fault Dialect :=
  ofTexts (d.reserved ++ reserved) (d.boundaryTexts ++ boundary)

def standardReserved : List Text :=
  ["sin", "cos", "tan", "asin", "acos", "atan", "exp", "log", "sqrt", "abs", "if", "or", "and", "not",
    "text_file_lookup_obsoleted", "pi", "ConduitSize_Lookup_obsoleted", "round", "roundup",
    "rounddown", "size_lookup", "ln"]

def standardBoundary : List Char :=
  ['+', '-', '*', '/', '^', '=', '>', '<', ' ', '[', ']', '(', ')', ',', '\t', '\r', '\n']

def standard : Dialect := ⟨standardReserved, standardBoundary, by decide⟩

def isBoundary (d : Dialect) (c : Char) : Bool := c ∈ d.boundary

def isBoundaryText (d : Dialect) : Text → Bool
  | [c] => d.isBoundary c
  | _ => false

/-- Case does not count in function names. -/
def isReserved (d : Dialect) (token : Text) : Bool := token.lower ∈ d.reserved.map (·.lower)

def sameAs (d e : Dialect) : Bool :=
  d.reserved.all (· ∈ e.reserved) && e.reserved.all (· ∈ d.reserved) &&
    d.boundary.all (· ∈ e.boundary) && e.boundary.all (· ∈ d.boundary)

end Dialect

end Parametric
