import Parametric.Dialect.Basic
import Parametric.Dialect.Validator

/-! # The fields of a dialect mapping, and what it asks for when none of them is wrong -/
namespace Parametric.Dialect

/-- One line feed at the end of a name is not looked at. -/
def isFunctionName (t : Text) : Bool :=
  let body := if t.getLast? = some '\n' then t.dropLast else t
  match body with
  | c :: rest => (c.isAlpha || c == '_') && rest.all fun c => c.isAlphanum || c == '_'
  | [] => false

def functionNameRule : Datum → List Text
  | .text t =>
    if isFunctionName t then []
    else ["Function name '" ++ t ++ "' is invalid. Names must start with a letter or underscore and " ++
      "contain only letters, digits and underscores."]
  | _ => []

def singleCharRule : Datum → List Text
  | .text t =>
    if t.length != 1 then
      ["Boundary character " ++ t.quoted ++ " must be exactly one character long."]
    else if t = [literalQuote] then
      ["The double quote delimits string literals and cannot be a boundary character."]
    else []
  | _ => []

def functionItems : ItemRules := { kind := .string, allowsEmpty := false, own := functionNameRule }

def boundaryItems : ItemRules := { kind := .string, own := singleCharRule }

def extendField : Text := "extend_defaults"
def reservedField : Text := "reserved_functions"
def boundaryField : Text := "boundary_chars"

def extendRules : FieldRules := { kind := .boolean, default? := some (.bool true) }

def listRules (items : ItemRules) : FieldRules := { kind := .list, items? := some items }

def schema : Schema :=
  [(extendField, extendRules), (reservedField, listRules functionItems),
    (boundaryField, listRules boundaryItems)]

def requiredMessage : Text := "required when 'extend_defaults' is false"

def textsOf (value : Option Datum) : List Text :=
  ((value.bind Datum.items?).getD []).filterMap fun x =>
    match x with
    | .text t => some t
    | _ => none

/-- What a mapping asks for once its fields are in order. -/
structure Request where
  extends_ : Bool
  reserved : List Text
  boundary : List Text

/-- What a document without errors asks for; the default sees to it that it tells whether to extend. -/
def requestOf? (document : List (Datum × Datum)) : Option Request :=
  (Datum.field? document extendField).map fun extends_ =>
    { extends_ := extends_.isTruthy
      reserved := textsOf (Datum.field? document reservedField)
      boundary := textsOf (Datum.field? document boundaryField) }

def Request.dialect (r : Request) : Except Fault Dialect :=
  if r.extends_ then standard.extended r.reserved r.boundary else ofTexts r.reserved r.boundary

end Parametric.Dialect
