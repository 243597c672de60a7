import Parametric.Dialect.Failure
import Parametric.Dialect.Schema
import Parametric.Journal
import Parametric.Text.Utf8

/-! # Dialects from mappings and from files -/
namespace Parametric.Dialect

/-- Why there is no dialect. Only the first kind is one that a host has to expect. -/
inductive Obstacle
  | failure (f : Failure)
  | raised (e : Raised)
  | fault (f : Fault)

def missingKey (name : Text) : Raised where
  kind := "KeyError"
  above := ["LookupError"]
  text := name.quoted

def ofFields (v : Validator) (fields : List (Datum × Datum)) (source : Option Text) :
    Except Obstacle Dialect :=
  match v.validate schema fields with
  | .error e => .error (.raised e)
  | .ok ⟨e :: es, _⟩ => .error (.failure (.schema (e :: es) source))
  | .ok ⟨[], document⟩ =>
    match requestOf? document with
    | none => .error (.raised (missingKey extendField))
    | some request =>
      if !request.extends_ && request.boundary.isEmpty then
        .error (.failure (.schema
          [(.text boundaryField, FieldFault.messages [requiredMessage])] source))
      else
        match request.dialect with
        | .ok d => .ok d
        | .error f => .error (.fault f)

namespace Location

/-- One slash or three and more mean the root; two are kept apart from it. -/
def root (t : Text) : Text :=
  match (t.takeWhile (· == '/')).length with
  | 0 => []
  | 2 => ['/', '/']
  | _ => ['/']

def parts (t : Text) : List Text :=
  (t.cutBy (· == '/')).filter fun p => !p.isEmpty && p != ['.']

/-- Empty steps and steps to the same place are left out. -/
def normalize (t : Text) : Text :=
  let shown := root t ++ Text.joined "/" (parts t)
  if shown.isEmpty then ['.'] else shown

end Location

inductive FileContent
  | missing
  | directory
  | bytes (bs : List UInt8)

/-- Reads the value that a file holds, and validates it. -/
structure Loader where
  read : TextStream → Except Raised Datum
  validator : Validator

def FileContent.stream (content : FileContent) (path : Text) : Except Raised TextStream :=
  match content with
  | .missing => .error
      { kind := "FileNotFoundError"
        above := ["OSError"]
        text := "[Errno 2] No such file or directory: " ++ path.quoted }
  | .directory => .error
      { kind := "IsADirectoryError"
        above := ["OSError"]
        text := "[Errno 21] Is a directory: " ++ path.quoted }
  | .bytes bs => .ok (Utf8.decode bs)

/-- What three handlers make of an exception; it may be one that none of them takes. -/
def handled (path : Text) (e : Raised) : Obstacle :=
  if e.isOneOf ["FileNotFoundError"] then .failure (.file ("File not found: " ++ e.text) (some path))
  else if e.isOneOf ["OSError"] then .failure (.file ("Could not read file: " ++ e.text) (some path))
  else if e.isOneOf ["YAMLError"] then .failure (.file ("Invalid YAML syntax: " ++ e.text) (some path))
  else .raised e

namespace Loader

variable (l : Loader)

/-- The fields in a file; an empty one has none. -/
def fields (content : FileContent) (path : Text) : Except Obstacle (List (Datum × Datum)) :=
  match (content.stream path).bind l.read with
  | .error e => .error (handled path e)
  | .ok .null => .ok []
  | .ok (.map fields) => .ok fields
  | .ok value => .error (.failure (.file
      ("Top level of a dialect file must be a mapping, got " ++ value.kindName ++ ".") (some path)))

def load (content : FileContent) (path : Text) : Except Obstacle Dialect := do
  ofFields l.validator (← l.fields content path) (some path)

end Loader

def channel : Text := "formula_guard.dialect.loader"

def loadEntry (path : Text) : Entry :=
  ⟨Journal.info, channel, "Loading formula dialect from '" ++ path ++ "'."⟩

/-- What reading a mapping notes; that boundary characters are missing goes unnoted. -/
def fieldEntries (v : Validator) (fields : List (Datum × Datum)) (source : Option Text) : List Entry :=
  match v.validate schema fields, ofFields v fields source with
  | _, .ok d => [⟨Journal.debug, channel,
      "Dialect ready: " ++ Text.ofNat d.reserved.length ++ " reserved functions, " ++
        Text.ofNat d.boundary.length ++ " boundary characters."⟩]
  | .ok ⟨e :: es, _⟩, _ => [⟨Journal.error, channel, (Failure.schema (e :: es) source).message⟩]
  | _, _ => []

def Loader.loadEntries (l : Loader) (content : FileContent) (path : Text) : List Entry :=
  match l.fields content path with
  | .ok fields => loadEntry path :: fieldEntries l.validator fields (some path)
  | .error _ => [loadEntry path]

end Parametric.Dialect
