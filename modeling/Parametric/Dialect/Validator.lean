import Parametric.Datum
import Parametric.Raised

/-! # What is asked of a validator of mappings, and the rules that it goes by -/
namespace Parametric

/-- What a schema can ask a value to be. -/
inductive Kind
  | boolean
  | list
  | string

/-- The items of a list. Bytes count as a list of numbers, a text as none of characters. -/
def Datum.items? : Datum → Option (List Datum)
  | .list xs => some xs
  | .bytes bs => some (bs.map fun b => .int b.toNat)
  | _ => none

def Datum.isVacant : Datum → Bool
  | .text [] | .bytes [] | .list [] | .set [] | .map [] => true
  | _ => false

namespace Kind

def name : Kind → Text
  | boolean => "boolean"
  | list => "list"
  | string => "string"

def admits : Kind → Datum → Bool
  | boolean, .bool _ => true
  | list, value => value.items?.isSome
  | string, .text _ => true
  | _, _ => false

end Kind

/-- A field is wrong as a whole or in some items of its list, told by their positions. -/
inductive FieldFault
  | whole (messages : List Text)
  | items (faults : List (Nat × List Text))

namespace FieldFault

def messages (ts : List Text) : Datum := .list (ts.map .text)

def toDatum : FieldFault → Datum
  | whole ts => messages ts
  | items faults => .list [.map (faults.map fun (i, ts) => (.int i, messages ts))]

end FieldFault

abbrev Faults := List (Datum × FieldFault)

def Faults.toData (faults : Faults) : List (Datum × Datum) := faults.map fun (k, f) => (k, f.toDatum)

def unknownMessage : Text := "unknown field"

def nullMessage : Text := "null value not allowed"

def emptyMessage : Text := "empty values not allowed"

def Kind.message (k : Kind) : Text := "must be of " ++ k.name ++ " type"

/-- The rules for an item of a list, with a rule of the schema's own. -/
structure ItemRules where
  kind : Kind
  allowsEmpty : Bool := true
  own : Datum → List Text

/-- What an item is wrong in. Null and the wrong kind keep the other rules from being looked at. -/
def ItemRules.complaints (r : ItemRules) (x : Datum) : List Text :=
  match x with
  | .null => [nullMessage]
  | x =>
    if r.kind.admits x then r.own x ++ if x.isVacant && !r.allowsEmpty then [emptyMessage] else []
    else [r.kind.message]

def itemFaults (complaints : Datum → List Text) (xs : List Datum) : List (Nat × List Text) :=
  (xs.zipIdx.map fun (x, i) => (i, complaints x)).filter (! ·.2.isEmpty)

structure FieldRules where
  kind : Kind
  default? : Option Datum := none
  items? : Option ItemRules := none

namespace FieldRules

variable (r : FieldRules)

/-- A default stands in for null. -/
def filled : Datum → Datum
  | .null => r.default?.getD .null
  | value => value

def fault? (value : Datum) : Option FieldFault :=
  match value with
  | .null => some (.whole [nullMessage])
  | value =>
    if r.kind.admits value then
      match r.items?, value.items? with
      | some rules, some xs =>
        match itemFaults rules.complaints xs with
        | [] => none
        | faults => some (.items faults)
      | _, _ => none
    else some (.whole [r.kind.message])

end FieldRules

abbrev Schema := List (Text × FieldRules)

namespace Schema

variable (s : Schema)

def rules? (key : Datum) : Option FieldRules := (s.find? fun e => key.same (.text e.1)).map (·.2)

def filled (key value : Datum) : Datum :=
  match s.rules? key with
  | some r => r.filled value
  | none => value

/-- The defaults of fields that a mapping does not have. -/
def missing (fields : List (Datum × Datum)) : List (Datum × Datum) :=
  s.filterMap fun (name, r) =>
    if (Datum.field? fields name).isSome then none else r.default?.map (.text name, ·)

def normalized (fields : List (Datum × Datum)) : List (Datum × Datum) :=
  fields.map (fun (k, v) => (k, s.filled k v)) ++ s.missing fields

def fault? (key value : Datum) : Option FieldFault :=
  match s.rules? key with
  | some r => r.fault? value
  | none => some (.whole [unknownMessage])

def faults (fields : List (Datum × Datum)) : Faults :=
  (s.normalized fields).filterMap fun (k, v) => (s.fault? k v).map (k, ·)

end Schema

/-- What a validation ends with: an error for each wrong field, and the mapping with defaults in it. -/
structure Validation where
  errors : List (Datum × Datum)
  document : List (Datum × Datum)

structure Validator where
  validate : Schema → List (Datum × Datum) → Except Raised Validation

end Parametric
