import Parametric.Text.Basic

/-! # Tags of YAML scalars, and which plain scalars get which -/
namespace Parametric.Yaml

def standardTag (name : Text) : Text := "tag:yaml.org,2002:" ++ name

namespace Scalar

def truthWords : List (Text × Bool) :=
  let forms (low title high : Text) (b : Bool) := [(low, b), (title, b), (high, b)]
  forms "yes" "Yes" "YES" true ++ forms "no" "No" "NO" false ++
    forms "true" "True" "TRUE" true ++ forms "false" "False" "FALSE" false ++
    forms "on" "On" "ON" true ++ forms "off" "Off" "OFF" false

def nullWords : List Text := ["~", "null", "Null", "NULL", ""]

def isSign (c : Char) : Bool := c == '+' || c == '-'

def unsigned : Text → Text
  | c :: rest => if isSign c then rest else c :: rest
  | [] => []

def allOf (p : Char → Bool) (t : Text) : Bool := !t.isEmpty && t.all p

def orLow (p : Char → Bool) (c : Char) : Bool := p c || c == '_'

def isHexDigit (c : Char) : Bool := c.isDigit || ('a' ≤ c.toLower && c.toLower ≤ 'f')

def isNumber : Text → Bool
  | c :: rest => c.isDigit && rest.all (orLow Char.isDigit)
  | [] => false

def isSixtieth : Text → Bool
  | [a] => a.isDigit
  | [a, b] => '0' ≤ a && a ≤ '5' && b.isDigit
  | _ => false

def isWhole (t : Text) : Bool :=
  match unsigned t with
  | ['0'] => true
  | '0' :: 'b' :: rest => allOf (orLow fun c => c == '0' || c == '1') rest
  | '0' :: 'x' :: rest => allOf (orLow isHexDigit) rest
  | '0' :: rest => allOf (orLow fun c => '0' ≤ c && c ≤ '7') rest
  | t =>
    match Text.cutBy (· == ':') t with
    | first :: parts => isNumber first && parts.all isSixtieth
    | [] => false

def isPower : Text → Bool
  | [] => true
  | c :: s :: rest => (c == 'e' || c == 'E') && isSign s && allOf Char.isDigit rest
  | _ => false

def isFraction (t : Text) : Bool :=
  isPower (t.dropWhile (orLow Char.isDigit))

def isReal (t : Text) : Bool :=
  let u := unsigned t
  let whole := u.takeWhile fun c => c != '.'
  match u.drop whole.length with
  | '.' :: rest =>
    if rest ∈ ([("inf" : Text), "Inf", "INF"] : List Text) && whole.isEmpty then true
    else if rest ∈ ([("nan" : Text), "NaN", "NAN"] : List Text) then t == u && whole.isEmpty
    else if whole.isEmpty then
      t == u && (rest.head?.map Char.isDigit).getD false && isFraction rest
    else
      match Text.cutBy (· == ':') whole with
      | [first] => isNumber first && isFraction rest
      | first :: parts => isNumber first && parts.all isSixtieth && rest.all (orLow Char.isDigit)
      | [] => false
  | _ => false

def digits? (least most : Nat) (t : Text) : Option (Nat × Text) :=
  let ds := (t.take most).takeWhile Char.isDigit
  if ds.length < least then none
  else some (ds.foldl (fun n d => 10 * n + (d.toNat - '0'.toNat)) 0, t.drop ds.length)

def mark? (m : Char) : Text → Option Text
  | c :: rest => if c == m then some rest else none
  | [] => none

def day? (t : Text) : Option (Nat × Nat × Nat × Text) := do
  let (year, t) ← digits? 4 4 t
  let (month, t) ← digits? 1 2 (← mark? '-' t)
  let (day, t) ← digits? 1 2 (← mark? '-' t)
  return (year, month, day, t)

/-- A time of day: its fraction of a second is kept as digits, its zone in minutes. -/
structure Clock where
  hour : Nat
  minute : Nat
  second : Nat
  fraction : Text
  zone : Option Int

def zone? (t : Text) : Option (Option Int) :=
  match t.dropWhile fun c => c == ' ' || c == '\t' with
  | [] => if t.isEmpty then some none else none
  | ['Z'] => some (some 0)
  | s :: rest =>
    if isSign s then do
      let (hours, rest) ← digits? 1 2 rest
      let (minutes, rest) ← if rest.isEmpty then some (0, rest) else digits? 2 2 (← mark? ':' rest)
      let n : Int := 60 * hours + minutes
      if rest.isEmpty then some (some (if s == '-' then -n else n)) else none
    else none

def clock? (t : Text) : Option Clock := do
  let t ← match t with
    | 'T' :: rest | 't' :: rest => some rest
    | c :: rest =>
      if c == ' ' || c == '\t' then some (rest.dropWhile fun c => c == ' ' || c == '\t') else none
    | [] => none
  let (hour, t) ← digits? 1 2 t
  let (minute, t) ← digits? 2 2 (← mark? ':' t)
  let (second, t) ← digits? 2 2 (← mark? ':' t)
  let (fraction, t) := match t with
    | '.' :: rest => (rest.takeWhile Char.isDigit, rest.dropWhile Char.isDigit)
    | t => ([], t)
  return ⟨hour, minute, second, fraction, ← zone? t⟩

/-- A day alone is written with two digits each for month and day. -/
def isMoment (t : Text) : Bool :=
  match day? t with
  | some (_, _, _, []) => t.length == 10
  | some (_, _, _, rest) => (clock? rest).isSome
  | none => false

/-- One line feed at the end of a scalar is not looked at. -/
def core (t : Text) : Text :=
  if t.getLast? == some '\n' && t.length != 1 then t.dropLast else t

/-- The name of the tag of a scalar that has none of its own. -/
def tagName (scalar : Text) : Text :=
  let t := core scalar
  if truthWords.any (·.1 == t) then "bool"
  else if isReal t then "float"
  else if isWhole t then "int"
  else if t == "<<" then "merge"
  else if t ∈ nullWords then "null"
  else if isMoment t then "timestamp"
  else if t == "=" then "value"
  else "str"

end Scalar

end Parametric.Yaml
