import Parametric.Formula.Mask
import Parametric.Journal
import Parametric.Text.Numeral

/-! # Formulas as tokens between boundary characters, and those that no known name is part of -/
namespace Parametric.Formula

/-- `held` is the text since an opening quote, last character first. -/
def stripFrom : Option Text → Text → Text
  | none, [] => []
  | some held, [] => literalQuote :: held.reverse
  | none, c :: rest =>
    if c = literalQuote then stripFrom (some []) rest else c :: stripFrom none rest
  | some held, c :: rest =>
    if c = literalQuote then ' ' :: stripFrom none rest else stripFrom (some (c :: held)) rest

def stripLiterals (formula : Text) : Text := stripFrom none formula

/-- Masked spans are blanks, so blanks never make a token, also where they are no boundaries. -/
def tokens (d : Dialect) (text : Text) : List Text :=
  ((text.cutBy d.isBoundary).map (Text.trimBy (· = ' '))).filter (! ·.isEmpty)

def startsWithDigit : Text → Bool
  | c :: _ => isDecimalDigit c
  | [] => false

/-- Numbers, digits with something glued on and reserved functions name no parameter. -/
def mayBeName (d : Dialect) (token : Text) : Bool :=
  !token.isEmpty && !startsWithDigit token && !token.isNumeric && !d.isReserved token

/-- A digit comes first and yet it is no number: `0'`, `12in`. -/
def isSuspicious (token : Text) : Bool := startsWithDigit token && !token.isNumeric

def candidates (d : Dialect) (formula : Option Text) : List Text :=
  match written? formula with
  | none => []
  | some f => ((tokens d (stripLiterals f)).filter
      fun t => !t.isNumeric && !d.isReserved t).eraseDups

variable (d : Dialect)

def unknownTokens (formula : Option Text) (names : List Text) : List Text :=
  match written? formula with
  | none => []
  | some f => tokens d (maskAll d names (stripLiterals f))

def invalidTokens (formula : Option Text) (names : List Text) : List Text :=
  ((unknownTokens d formula names).filter (mayBeName d)).eraseDups

/-- Tokens that look like numbers in a format of their own, in order of first appearance. -/
def suspiciousTokens (formula : Option Text) (names : List Text) : List Text :=
  ((unknownTokens d formula names).filter isSuspicious).eraseDups

def invalidEntries (formula : Option Text) (invalid : List Text) : List Entry :=
  if invalid.isEmpty then []
  else [⟨Journal.debug, "formula_guard.formulas.tokenizer", "Invalid tokens in formula '" ++
    formula.getD [] ++ "': " ++ (Datum.list (invalid.map .text)).quoted⟩]

end Parametric.Formula
