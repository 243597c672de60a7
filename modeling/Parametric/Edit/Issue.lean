import Parametric.Datum
import Parametric.Journal

/-! # Issues with an edit: their codes and the templates of their messages -/
namespace Parametric

inductive Issue
  | unknown
  | unknownUnitSuffix
  | literalWithUnit
  | instanceFromType
  | wouldCreateCycle
  | typeMismatch
  | noSourceFormula
  | hostRejected
  | hostRejectedSuspicious
  deriving DecidableEq

namespace Issue

def all : List Issue :=
  [unknown, unknownUnitSuffix, literalWithUnit, instanceFromType, wouldCreateCycle, typeMismatch,
    noSourceFormula, hostRejected, hostRejectedSuspicious]

def code : Issue → Text
  | unknown => "REF_UNKNOWN"
  | unknownUnitSuffix => "REF_UNKNOWN_UNIT_SUFFIX"
  | literalWithUnit => "REF_LITERAL_WITH_UNIT"
  | instanceFromType => "REF_INSTANCE_FROM_TYPE"
  | wouldCreateCycle => "CYCLE_WOULD_CREATE"
  | typeMismatch => "SRC_TYPE_MISMATCH"
  | noSourceFormula => "SRC_NO_FORMULA"
  | hostRejected => "HOST_REJECTED"
  | hostRejectedSuspicious => "HOST_REJECTED_SUSPICIOUS"

def ofCode? (code : Text) : Option Issue := all.find? (·.code == code)

/-- A template is made of words and of slots, each to be filled with one value. -/
inductive Piece
  | words (t : Text)
  | slot (name : Text)

def Piece.shown : Piece → Text
  | words t => t
  | slot name => "\x7b" ++ name ++ "\x7d"

def opening : List Piece :=
  [.words "Cannot set formula on parameter '", .slot "target", .words "'. "]

def template : Issue → List Piece
  | unknown => opening ++
      [.words "Formula references non-existent parameters: ", .slot "names", .words "."]
  | unknownUnitSuffix => opening ++
      [.words "Formula references non-existent parameters: ", .slot "names",
        .words ". Found tokens that look like unit suffixes: ", .slot "suffixes",
        .words (". If this is intended as a literal value, set it as a value instead; if it is a " ++
          "formula, these may be misspelled parameter names.")]
  | literalWithUnit => opening ++
      [.words "The value '", .slot "formula",
        .words ("' appears to be a literal with a unit suffix, not a formula. " ++
          "Formulas do not support unit suffixes like "), .slot "suffixes",
        .words "; set it as a value instead."]
  | instanceFromType =>
      [.words "Cannot set formula on type parameter '", .slot "target",
        .words "'. Type parameter formulas cannot reference instance parameters: ", .slot "names",
        .words "."]
  | wouldCreateCycle => opening ++
      [.words "'", .slot "direct_reference", .words "' already depends on '", .slot "target",
        .words "': ", .slot "path", .words "."]
  | typeMismatch => opening ++
      [.words "Source parameter '", .slot "source", .words "' has data type '", .slot "source_type",
        .words "' but target has data type '", .slot "target_type", .words "'."]
  | noSourceFormula => opening ++
      [.words "Source parameter '", .slot "source", .words "' has no formula."]
  | hostRejected => opening ++ [.words "Host error: ", .slot "message"]
  | hostRejectedSuspicious => opening ++
      [.words ("The host rejected the formula. Found tokens that may be numeric literals with " ++
        "unrecognized unit formats: "), .slot "tokens", .words ". Host error: ", .slot "message"]

def templateText (i : Issue) : Text := i.template.flatMap Piece.shown

/-- Values by the names of slots, each name at most once. -/
abbrev Arguments := List (Text × Datum)

def value? (args : Arguments) (name : Text) : Option Datum :=
  (args.find? fun a => a.1 = name).map (·.2)

/-- The first slot without a value, or the text with every slot filled in one pass. -/
def fill (args : Arguments) : List Piece → Except Text Text
  | [] => .ok []
  | .words t :: rest => (fill args rest).map (t ++ ·)
  | .slot name :: rest =>
    match value? args name with
    | some v => (fill args rest).map (v.plain ++ ·)
    | none => .error name

def shownArguments (args : Arguments) : Text :=
  (Datum.map (args.map fun a => (.text a.1, a.2))).quoted

def message (i : Issue) (args : Arguments) : Text :=
  match fill args i.template with
  | .ok t => t
  | .error name => "Error formatting message for " ++ i.code ++ ": Missing key " ++ name.quoted ++
      ". Template: '" ++ i.templateText ++ "' Args: " ++ shownArguments args

def entries (i : Issue) (args : Arguments) : List Entry :=
  match fill args i.template with
  | .ok _ => []
  | .error name => [⟨Journal.error, "formula_guard.mutation.issue_codes",
      "Missing key " ++ name.quoted ++ " for formatting message template of " ++ i.code ++
        " (code: " ++ i.code ++ "): '" ++ i.templateText ++ "'. Provided args: " ++
        shownArguments args⟩]

end Issue

/-- Names as a message lists them. -/
def quotedNames (names : List Text) : Text :=
  Text.joined ", " (names.map fun n => "'" ++ n ++ "'")

end Parametric
