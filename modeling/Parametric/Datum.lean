import Parametric.Decimal.Shortest
import Parametric.Text.Quoted

/-! # Values of any kind, with a plain and a quoted form -/
namespace Parametric

/-- A day and a time of day; `offset` counts minutes east of universal time. -/
structure Moment where
  year : Nat
  month : Nat
  day : Nat
  hour : Nat
  minute : Nat
  second : Nat
  micro : Nat
  offset : Option Int

inductive Datum
  | null
  | bool (b : Bool)
  | int (n : Int)
  | float (x : Float)
  | text (t : Text)
  | bytes (bs : List UInt8)
  | date (year month day : Nat)
  | moment (m : Moment)
  | list (items : List Datum)
  | set (items : List Datum)
  | map (fields : List (Datum × Datum))

instance : Inhabited Datum := ⟨.null⟩

namespace Datum

/-- A number with as many leading zeros as make it `width` digits long. -/
def padded (width n : Nat) : Text :=
  let ds := Text.ofNat n
  List.replicate (width - ds.length) '0' ++ ds

def dateText (year month day : Nat) : Text :=
  padded 4 year ++ "-" ++ padded 2 month ++ "-" ++ padded 2 day

def clockText (m : Moment) : Text :=
  padded 2 m.hour ++ ":" ++ padded 2 m.minute ++ ":" ++ padded 2 m.second ++
    if m.micro == 0 then ([] : Text) else "." ++ padded 6 m.micro

def offsetText : Option Int → Text
  | none => []
  | some n =>
    (if n < 0 then "-" else "+") ++ padded 2 (n.natAbs / 60) ++ ":" ++ padded 2 (n.natAbs % 60)

/-- The zone of a quoted moment; a negative offset is given as one day less and the seconds left. -/
def zoneText : Option Int → Text
  | none => []
  | some n =>
    if n == 0 then ", tzinfo=datetime.timezone.utc"
    else
      let days : Text := if n < 0 then "days=-1, " else []
      let seconds := (if n < 0 then n + 1440 else n) * 60
      ", tzinfo=datetime.timezone(datetime.timedelta(" ++ days ++ "seconds=" ++
        Text.ofInt seconds ++ "))"

def quotedMoment (m : Moment) : Text :=
  let tail := if m.micro != 0 then [m.second, m.micro] else if m.second != 0 then [m.second] else []
  let parts := [m.year, m.month, m.day, m.hour, m.minute] ++ tail
  "datetime.datetime(" ++ Text.joined ", " (parts.map Text.ofNat) ++ zoneText m.offset ++ ")"

def boolText (b : Bool) : Text := if b then "True" else "False"

mutual

def quoted : Datum → Text
  | null => "None"
  | bool b => boolText b
  | int n => Text.ofInt n
  | float x => floatText x
  | text t => t.quoted
  | bytes bs => quotedBytes bs
  | date y m d => "datetime.date(" ++ Text.joined ", " [Text.ofNat y, Text.ofNat m, Text.ofNat d] ++ ")"
  | moment m => quotedMoment m
  | list items => "[" ++ Text.joined ", " (quotedAll items) ++ "]"
  | set items =>
    if items.isEmpty then "set()" else "\x7b" ++ Text.joined ", " (quotedAll items) ++ "\x7d"
  | map fields => "\x7b" ++ Text.joined ", " (quotedFields fields) ++ "\x7d"

def quotedAll : List Datum → List Text
  | [] => []
  | d :: ds => quoted d :: quotedAll ds

def quotedFields : List (Datum × Datum) → List Text
  | [] => []
  | (k, v) :: rest => (quoted k ++ ": " ++ quoted v) :: quotedFields rest

end

def plain : Datum → Text
  | text t => t
  | date y m d => dateText y m d
  | moment m => dateText m.year m.month m.day ++ " " ++ clockText m ++ offsetText m.offset
  | d => d.quoted

/-- Absent, false, zero and empty values count for nothing. -/
def isTruthy : Datum → Bool
  | null => false
  | bool b => b
  | int n => n != 0
  | float x => x != 0
  | text t => !t.isEmpty
  | bytes bs => !bs.isEmpty
  | list items | set items => !items.isEmpty
  | map fields => !fields.isEmpty
  | date .. | moment _ => true

/-- A number as a quotient; infinite ones and not-a-number are none. -/
def quotient? : Datum → Option (Int × Nat)
  | bool b => some (if b then 1 else 0, 1)
  | int n => some (n, 1)
  | float x =>
    if x == 0 then some (0, 1)
    else (Decimal.Binary.ofFloat? x).map fun b =>
      let size := Nat.pow 2 b.exponent.natAbs
      let n : Int := if x < 0 then -b.mantissa else b.mantissa
      if 0 ≤ b.exponent then (n * size, 1) else (n, size)
  | _ => none

/-- The number that an integer, a truth value or a whole double stands for. -/
def whole? (d : Datum) : Option Int :=
  (quotient? d).bind fun (n, k) => if n % k == 0 then some (n / k) else none

def daysBefore (year month : Nat) : Nat :=
  let isLeap := year % 4 == 0 && (year % 100 != 0 || year % 400 == 0)
  [0, 31, 59, 90, 120, 151, 181, 212, 243, 273, 304, 334].getD (month - 1) 0 +
    if isLeap && 2 < month then 1 else 0

def dayNumber (year month day : Nat) : Nat :=
  let past := year - 1
  365 * past + past / 4 - past / 100 + past / 400 + daysBefore year month + day

/-- Minutes, seconds and parts of them, counted in universal time if there is an offset. -/
def instant (m : Moment) : List Int :=
  [(dayNumber m.year m.month m.day * 1440 + m.hour * 60 + m.minute : Nat) - m.offset.getD 0, m.second,
    m.micro]

mutual

/-- Equality of values: numbers of different kinds are equal when they have the same size. -/
def same : Datum → Datum → Bool
  | null, null => true
  | text s, text t => s == t
  | bytes s, bytes t => s == t
  | date y m d, date y' m' d' => y == y' && m == m' && d == d'
  | moment m, moment m' => m.offset.isSome == m'.offset.isSome && instant m == instant m'
  | list xs, list ys => sameAll xs ys
  | set xs, set ys => sameAll xs ys
  | map xs, map ys => sameFields xs ys
  | float x, float y => x == y
  | a, b =>
    match quotient? a, quotient? b with
    | some (m, k), some (n, l) => m * l == n * k
    | _, _ => false

def sameAll : List Datum → List Datum → Bool
  | [], [] => true
  | x :: xs, y :: ys => same x y && sameAll xs ys
  | _, _ => false

def sameFields : List (Datum × Datum) → List (Datum × Datum) → Bool
  | [], [] => true
  | (k, v) :: xs, (k', v') :: ys => same k k' && same v v' && sameFields xs ys
  | _, _ => false

end

/-- What a message calls the kind of a value. -/
def kindName : Datum → Text
  | null => "NoneType"
  | bool _ => "bool"
  | int _ => "int"
  | float _ => "float"
  | text _ => "str"
  | bytes _ => "bytes"
  | date .. => "date"
  | moment _ => "datetime"
  | list _ => "list"
  | set _ => "set"
  | map _ => "dict"

def ofText? : Option Text → Datum
  | some t => text t
  | none => null

/-! ### Order -/

/-- Values of one rank have an order among themselves, and none with others. -/
inductive Rank
  | text
  | number
  | bytes
  | date
  | moment (isZoned : Bool)
  deriving DecidableEq

def rank? : Datum → Option Rank
  | text _ => some .text
  | bool _ | int _ | float _ => some .number
  | bytes _ => some .bytes
  | date .. => some .date
  | moment m => some (.moment m.offset.isSome)
  | _ => none

/-- Beside an infinite number all finite ones are alike. -/
def number : Datum → Float
  | float x => if x.isFinite then 0 else x
  | _ => 0

/-- The order of values of one rank. -/
def before : Datum → Datum → Bool
  | text s, text t => Text.before s t
  | bytes s, bytes t => decide (s < t)
  | date y m d, date y' m' d' => decide ([y, m, d] < [y', m', d'])
  | moment m, moment m' => decide (instant m < instant m')
  | a, b =>
    match quotient? a, quotient? b with
    | some (m, k), some (n, l) => m * l < n * k
    | _, _ => number a < number b

/-- Whether a value comes before another one, if the two can be compared. -/
def before? (a b : Datum) : Option Bool :=
  if a.rank? = b.rank? then a.rank?.map fun _ => before a b else none

/-! ### Fields -/

/-- The value of a field, the last one when it is given repeatedly. -/
def field? (fields : List (Datum × Datum)) (name : Text) : Option Datum :=
  (fields.reverse.find? fun f => f.1.same (.text name)).map (·.2)

end Datum

end Parametric
