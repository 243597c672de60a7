import Parametric.Datum
import Parametric.Text.LowerCase
import Parametric.Text.Numeral
import Parametric.Yaml.Node

/-! # The value of a YAML document -/
namespace Parametric.Yaml

namespace Node

def tag : Node → Text
  | scalar t _ | sequence t _ | mapping t _ => t

def hasTag (n : Node) (name : Text) : Bool := n.tag == standardTag name

def entriesOf : Node → Except Fault (List (Node × Node))
  | mapping _ entries => .ok entries
  | _ => .error .malformed

/-- What a merge key brings in: of several mappings the first one counts most. -/
def mergeSource : Node → Except Fault (List (Node × Node))
  | mapping _ entries => .ok entries
  | sequence _ items => do return ((← items.mapM entriesOf).reverse).flatten
  | scalar .. => .error .malformed

/-- An equals sign is a text where it is a key. -/
def asKey (n : Node) : Node :=
  match n with
  | scalar _ t => if n.hasTag "value" then scalar (standardTag "str") t else n
  | _ => n

/-- The merged entries come first, so that a mapping's own entries replace them. -/
def flatten (entries : List (Node × Node)) : Except Fault (List (Node × Node)) := do
  let sources ← (entries.filter (·.1.hasTag "merge")).mapM fun e => mergeSource e.2
  let own := (entries.filter (! ·.1.hasTag "merge")).map fun e => (e.1.asKey, e.2)
  return sources.flatten ++ own

def scalarNames : List Text := ["str", "null", "bool", "int", "float", "timestamp", "binary"]

def standsForScalar (n : Node) : Bool := scalarNames.any n.hasTag

mutual

/-- The text of a node that stands for a scalar; a mapping has it after an equals sign. -/
def text : Node → Except Fault Text
  | scalar _ t => .ok t
  | sequence .. => .error .malformed
  | mapping _ entries => textIn entries

def textIn : List (Node × Node) → Except Fault Text
  | [] => .error .malformed
  | (k, v) :: rest => if k.hasTag "value" then text v else textIn rest

end

mutual

def merged : Node → Except Fault Node
  | scalar t x => .ok (scalar t x)
  | sequence t items => do return sequence t (← mergedItems items)
  | mapping t entries =>
    if standsForScalar (mapping t entries) then .ok (mapping t entries)
    else do return mapping t (← flatten (← mergedEntries entries))

def mergedItems : List Node → Except Fault (List Node)
  | [] => .ok []
  | n :: rest => do return (← merged n) :: (← mergedItems rest)

def mergedEntries : List (Node × Node) → Except Fault (List (Node × Node))
  | [] => .ok []
  | (k, v) :: rest => do return (← merged k, ← merged v) :: (← mergedEntries rest)

end

end Node

namespace Scalar

def truthValue (t : Text) : Except Fault Datum :=
  match truthWords.find? fun w => w.1 == t.lower with
  | some (_, b) => .ok (.bool b)
  | none => .error .badTruth

def isNegative (t : Text) : Bool := t.head? == some '-'

def baseMarks : List (Nat × Char) := [(2, 'b'), (8, 'o'), (16, 'x')]

def afterMark (base : Nat) (t : Text) : Text :=
  match t with
  | '0' :: m :: rest => if (base, m.toLower) ∈ baseMarks then rest else t
  | _ => t

def inBase (base : Nat) (t : Text) : Except Fault Int :=
  let t := t.trimBy Numeral.isMargin
  let digits := afterMark base (unsigned t)
  let step (n : Option Nat) (c : Char) : Option Nat := do
    let v ← (digitValue? c).orElse fun _ => if c.isAlpha then some (c.toLower.toNat - 'a'.toNat + 10) else none
    if v < base then return (← n) * base + v else none
  if digits.isEmpty || (base == 10 && digitLimit < digits.length) then .error .badNumber
  else match digits.foldl step (some 0) with
    | some n => .ok (if isNegative t then -n else n)
    | none => .error .badNumber

def sixtieths (t : Text) : Except Fault Int := do
  let parts ← (Text.cutBy (· == ':') t).mapM (inBase 10)
  return parts.foldl (fun n p => 60 * n + p) 0

def withoutLow (t : Text) : Text := t.filter (· != '_')

def wholeValue (t : Text) : Except Fault Datum := do
  let t := withoutLow t
  if t.isEmpty then throw .emptyNumber
  let size ← match unsigned t with
    | [] => throw .emptyNumber
    | '0' :: 'b' :: rest => inBase 2 rest
    | '0' :: 'x' :: rest => inBase 16 rest
    | '0' :: rest => inBase 8 ('0' :: rest)
    | u => if ':' ∈ u then sixtieths u else inBase 10 u
  return .int (if isNegative t then -size else size)

def realPart (t : Text) : Except Fault Float :=
  match Numeral.read? t with
  | some n => .ok n.toFloat
  | none =>
    let word := unsigned t.trim
    let size? : Option Float :=
      if word == "inf" || word == "infinity" then some (1 / 0)
      else if word == "nan" then some (0 / 0) else none
    match size? with
    | some x => .ok (if isNegative t.trim then -x else x)
    | none => .error .badNumber

/-- As many parts as have a place value that is no double do not add up. -/
def realSixtieths (t : Text) : Except Fault Float := do
  let parts ← (Text.cutBy (· == ':') t).mapM realPart
  if Numeral.finiteBound ≤ Nat.pow 60 (parts.length - 1) then throw .overflow
  return (parts.foldr (fun p (x, base) => (x + p * Float.ofNat base, base * 60)) ((0 : Float), 1)).1

def realValue (t : Text) : Except Fault Datum := do
  let t := (withoutLow t).lower
  if t.isEmpty then throw .emptyNumber
  let u := unsigned t
  let size ←
    if u == ".inf" then pure (1 / 0)
    else if u == ".nan" then pure (0 / 0)
    else if ':' ∈ u then realSixtieths u
    else realPart u
  return .float (if isNegative t then -size else size)

def monthLength (year month : Nat) : Nat :=
  let isLeap := year % 4 == 0 && (year % 100 != 0 || year % 400 == 0)
  if month == 2 then if isLeap then 29 else 28
  else if month ∈ [4, 6, 9, 11] then 30 else 31

def isDay (year month day : Nat) : Bool :=
  1 ≤ year && 1 ≤ month && month ≤ 12 && 1 ≤ day && day ≤ monthLength year month

def millionths (fraction : Text) : Nat :=
  let ds := fraction.take 6
  Numeral.ofDigits ((ds ++ List.replicate (6 - ds.length) '0').map fun c => c.toNat - '0'.toNat)

def momentValue (t : Text) : Except Fault Datum :=
  match day? t with
  | none => .error .noMoment
  | some (year, month, day, []) =>
    if isDay year month day then .ok (.date year month day) else .error .badMoment
  | some (year, month, day, rest) =>
    match clock? rest with
    | none => .error .noMoment
    | some c =>
      let isClock := c.hour < 24 && c.minute < 60 && c.second < 60
      if isDay year month day && isClock && (c.zone.getD 0).natAbs < 1440 then
        .ok (.moment ⟨year, month, day, c.hour, c.minute, c.second, millionths c.fraction, c.zone⟩)
      else .error .badMoment

def letterValue? (c : Char) : Option Nat :=
  if 'A' ≤ c && c ≤ 'Z' then some (c.toNat - 'A'.toNat)
  else if 'a' ≤ c && c ≤ 'z' then some (c.toNat - 'a'.toNat + 26)
  else if c.isDigit then some (c.toNat - '0'.toNat + 52)
  else if c == '+' then some 62 else if c == '/' then some 63 else none

/-- Four letters make three bytes; `held` are the letters of an unfinished group. -/
def bytesFrom (held : List Nat) : Text → Option (List UInt8)
  | [] => if held.isEmpty then some [] else none
  | c :: rest =>
    let byte (n : Nat) : UInt8 := UInt8.ofNat (n % 256)
    if c == '=' then
      match held, (rest.filter fun c => (letterValue? c).isSome || c == '=').head? with
      | [a, b, d], _ => some [byte (4 * a + b / 16), byte (16 * b + d / 4)]
      | [a, b], some '=' => some [byte (4 * a + b / 16)]
      | _, _ => bytesFrom held rest
    else match letterValue? c, held with
      | none, _ => bytesFrom held rest
      | some e, [a, b, d] =>
        (bytesFrom [] rest).map ([byte (4 * a + b / 16), byte (16 * b + d / 4), byte (64 * d + e)] ++ ·)
      | some e, held => bytesFrom (held ++ [e]) rest

def bytesValue (t : Text) : Except Fault Datum :=
  if t.any (128 ≤ ·.toNat) then .error .malformed
  else match bytesFrom [] t with
    | some bs => .ok (.bytes bs)
    | none => .error .malformed

def value (tag t : Text) : Except Fault Datum :=
  if tag == standardTag "str" then .ok (.text t)
  else if tag == standardTag "null" then .ok .null
  else if tag == standardTag "bool" then truthValue t
  else if tag == standardTag "int" then wholeValue t
  else if tag == standardTag "float" then realValue t
  else if tag == standardTag "timestamp" then momentValue (core t)
  else if tag == standardTag "binary" then bytesValue t
  else .error .malformed

end Scalar

/-- Lists, maps and sets cannot be keys. -/
def isKey : Datum → Bool
  | .list _ | .map _ | .set _ => false
  | _ => true

/-- Sets a field: a key given again keeps its place and gets the new value. -/
def setField (fields : List (Datum × Datum)) (key value : Datum) : List (Datum × Datum) :=
  if fields.any (·.1.same key) then
    fields.map fun f => if f.1.same key then (f.1, value) else f
  else fields ++ [(key, value)]

def fieldsOf (entries : List (Datum × Datum)) : Except Fault (List (Datum × Datum)) :=
  if entries.all (isKey ·.1) then .ok (entries.foldl (fun fs e => setField fs e.1 e.2) [])
  else .error .malformed

def isPairList (tag : Text) : Bool := tag == standardTag "omap" || tag == standardTag "pairs"

/-- An ordered mapping is written as a sequence of mappings with one entry each; a list of two stands
for each entry. -/
def pairOf : Datum → Except Fault Datum
  | .map [(k, v)] => .ok (.list [k, v])
  | _ => .error .malformed

mutual

def Node.value : Node → Except Fault Datum
  | .scalar tag t => Scalar.value tag t
  | .sequence tag items => do
    let values ← valuesOf items
    if tag == standardTag "seq" then return .list values
    else if isPairList tag then return .list (← values.mapM pairOf)
    else throw .malformed
  | .mapping tag entries =>
    if (Node.mapping tag entries).standsForScalar then do
      let t ← Node.textIn entries
      if tag == standardTag "timestamp" then throw .noText
      Scalar.value tag t
    else do
      let fields ← fieldsOf (← entriesValues entries)
      if tag == standardTag "map" then return .map fields
      else if tag == standardTag "set" then return .set (fields.map (·.1))
      else throw .malformed

def valuesOf : List Node → Except Fault (List Datum)
  | [] => .ok []
  | n :: rest => do return (← n.value) :: (← valuesOf rest)

def entriesValues : List (Node × Node) → Except Fault (List (Datum × Datum))
  | [] => .ok []
  | (k, v) :: rest => do return (← k.value, ← v.value) :: (← entriesValues rest)

end

def read (t : Text) : Except Fault Datum :=
  let t := unifyBreaks t
  if !t.all isAllowed then .error .malformed
  else do
    match ← Node.ofTokens? (tokens t) with
    | none => return .null
    | some n => (← n.merged).value

end Parametric.Yaml
