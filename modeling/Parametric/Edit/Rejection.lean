import Parametric.Edit.Issue
import Parametric.Graph.Cycle
import Parametric.Report

/-! # Rejections of edits: what was found, as a message and as a report -/
namespace Parametric

inductive Rejection
  | unknownReference (target : Option Text) (names suffixes : List Text) (isValue : Bool)
      (formula : Option Text)
  | instanceReference (target : Option Text) (names : List (Option Text))
  | typeMismatch (target source : Option Text) (sourceType targetType : Datum)
  | emptySource (target source : Option Text)
  | cycle (target : Option Text) (verdict : Cycle.Verdict)
  | refused (target : Option Text) (host : Text) (suspicious : List Text)

namespace Rejection

def target : Rejection → Option Text
  | unknownReference t .. | instanceReference t _ | typeMismatch t .. | emptySource t _
  | cycle t _ | refused t .. => t

def issue : Rejection → Issue
  | unknownReference _ _ suffixes isValue _ =>
    if isValue then .literalWithUnit
    else if suffixes.isEmpty then .unknown else .unknownUnitSuffix
  | instanceReference .. => .instanceFromType
  | typeMismatch .. => .typeMismatch
  | emptySource .. => .noSourceFormula
  | cycle .. => .wouldCreateCycle
  | refused _ _ suspicious => if suspicious.isEmpty then .hostRejected else .hostRejectedSuspicious

def directName (v : Cycle.Verdict) : Text :=
  match v.direct with
  | some p => shownName p.name
  | none => []

/-- What the slots of the message are filled with. -/
def arguments : Rejection → Issue.Arguments
  | unknownReference t names suffixes _ formula =>
    [("target", .ofText? t), ("names", .text (quotedNames names)),
      ("suffixes", .text (quotedNames suffixes)), ("formula", .ofText? formula)]
  | instanceReference t names =>
    [("target", .ofText? t), ("names", .text (quotedNames (names.map shownName)))]
  | typeMismatch t source sourceType targetType =>
    [("target", .ofText? t), ("source", .ofText? source), ("source_type", sourceType),
      ("target_type", targetType)]
  | emptySource t source => [("target", .ofText? t), ("source", .ofText? source)]
  | cycle t v =>
    [("target", .ofText? t), ("direct_reference", .text (directName v)), ("path", .text v.pathText)]
  | refused t host suspicious =>
    [("target", .ofText? t), ("message", .text host), ("tokens", .text (quotedNames suspicious))]

def message (r : Rejection) : Text := r.issue.message r.arguments

def shown (r : Rejection) : Text := "[" ++ r.issue.code ++ "] " ++ r.message

def context (r : Rejection) : Report.Context :=
  { code := .text r.issue.code
    parameter := .ofText? r.target
    formula := match r with
      | unknownReference _ _ _ _ formula => .ofText? formula
      | _ => .null }

def heading : Rejection → Text
  | unknownReference .. => "Unknown Reference"
  | instanceReference .. => "Illegal Instance Reference"
  | typeMismatch .. => "Data Type Mismatch"
  | emptySource .. => "Formula Rejected"
  | cycle .. => "Circular Formula Reference"
  | refused .. => "Commit Rejected By Host"

def details (r : Rejection) : Text :=
  match r with
  | cycle t v => r.message ++ "\n\nFull cycle: " ++ shownName t ++ Cycle.Verdict.arrow ++ v.pathText
  | _ => r.message

def suggestion : Rejection → Text
  | unknownReference _ _ suffixes isValue _ =>
    if isValue then "Set the literal as the parameter's value instead of as a formula."
    else if suffixes.isEmpty then
      "Check the spelling of each name, or create the missing parameters first."
    else "If the value is a literal with units, set it as a value instead of a formula."
  | instanceReference .. =>
    "Make the target an instance parameter, or reference only type parameters."
  | typeMismatch .. => "Copy formulas only between parameters of the same data type."
  | emptySource .. => []
  | cycle .. => "Remove the reference to one of the parameters on the cycle path."
  | refused .. =>
    "The formula passed local validation; see the host error for the reason it was refused."

def report (r : Rejection) : Report where
  kind := r.heading
  details := r.details
  suggestion := r.suggestion
  context := r.context

end Rejection

end Parametric
