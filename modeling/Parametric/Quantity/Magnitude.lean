import Parametric.Decimal.Shortest

/-! # Magnitudes of quantities: whole numbers, doubles, and numbers whose size is not followed -/
namespace Parametric

/-- Why a calculation gives no answer. `unreadable` is itself an answer: the text is no quantity. -/
inductive Calculation.Fault
  | unreadable
  | missingOperand
  | divisionByZero
  | overflow

open Calculation (Fault)

/-- `other` stands for a number that is not zero. -/
inductive Magnitude
  | whole (n : Int)
  | real (x : Float)
  | other

namespace Magnitude

def isZero : Magnitude → Bool
  | whole n => n == 0
  | real x => x == 0
  | other => false

def isOne : Magnitude → Bool
  | whole n => n == 1
  | real x => x == 1
  | other => false

def isNaN : Magnitude → Bool
  | real x => x.isNaN
  | _ => false

def toFloat (n : Int) : Except Fault Float :=
  if n.natAbs < Nat.pow 2 1024 - Nat.pow 2 970 then .ok (Float.ofInt n) else .error .overflow

/-- An operation on whole numbers or, if one of the two is none, on doubles. -/
def lift (wholes : Int → Int → Except Fault Magnitude)
    (reals : Float → Float → Except Fault Magnitude) : Magnitude → Magnitude → Except Fault Magnitude
  | whole m, whole n => wholes m n
  | whole m, real y => do reals (← toFloat m) y
  | real x, whole n => do reals x (← toFloat n)
  | real x, real y => reals x y
  | _, _ => .ok other

def add : Magnitude → Magnitude → Except Fault Magnitude :=
  lift (fun m n => .ok (whole (m + n))) (fun x y => .ok (real (x + y)))

def sub : Magnitude → Magnitude → Except Fault Magnitude :=
  lift (fun m n => .ok (whole (m - n))) (fun x y => .ok (real (x - y)))

def mul : Magnitude → Magnitude → Except Fault Magnitude :=
  lift (fun m n => .ok (whole (m * n))) (fun x y => .ok (real (x * y)))

def unlessZero (y : Magnitude) (r : Except Fault Magnitude) : Except Fault Magnitude :=
  if y.isZero then .error .divisionByZero else r

def div (x y : Magnitude) : Except Fault Magnitude :=
  unlessZero y (lift (fun m n => do return real ((← toFloat m) / (← toFloat n)))
    (fun x y => .ok (real (x / y))) x y)

/-- What a division towards zero leaves. It is a double, so nothing is lost by rounding. -/
def realRest (x y : Float) : Float :=
  match Decimal.Binary.ofFloat? x, Decimal.Binary.ofFloat? y with
  | some a, some b =>
    let e := min a.exponent b.exponent
    let m := a.mantissa * Nat.pow 2 (a.exponent - e).toNat %
      (b.mantissa * Nat.pow 2 (b.exponent - e).toNat)
    let size := Float.scaleB (Float.ofNat m) e
    if x < 0 then -size else size
  | _, _ => if x.isNaN || x.isInf || y.isNaN || y == 0 then 0 / 0 else x

/-- Whether a rest has to be brought to the side of zero on which the divisor is. -/
def isAcross (rest y : Float) : Bool := rest != 0 && (y < 0) != (rest < 0)

def realRemainder (x y : Float) : Float :=
  let rest := realRest x y
  if isAcross rest y then rest + y else rest

def realFloorDiv (x y : Float) : Float :=
  let rest := realRest x y
  let div := (x - rest) / y
  let div := if isAcross rest y then div - 1 else div
  if div - div.floor > 0.5 then div.floor + 1 else div.floor

def floorDiv (x y : Magnitude) : Except Fault Magnitude :=
  unlessZero y (lift (fun m n => .ok (whole (m.fdiv n))) (fun x y => .ok (real (realFloorDiv x y))) x y)

def remainder (x y : Magnitude) : Except Fault Magnitude :=
  unlessZero y (lift (fun m n => .ok (whole (m.fmod n))) (fun x y => .ok (real (realRemainder x y))) x y)

def realPower (x y : Float) : Except Fault Magnitude :=
  if x == 0 && y < 0 then .error .divisionByZero
  else if x < 0 && y.isFinite && y.floor != y then .ok other
  else
    let z := x.pow y
    if z.isInf && x.isFinite && y.isFinite then .error .overflow else .ok (real z)

def powerLimit : Nat := 100000

def wholePower (m : Int) (n : Nat) : Magnitude :=
  let size (n : Nat) : Int := Nat.pow m.natAbs n
  let sign : Int := if m < 0 && n % 2 == 1 then -1 else 1
  if n ≤ powerLimit then whole (sign * size n)
  else if m.natAbs ≤ 1 then whole (sign * size 1)
  else other

def power : Magnitude → Magnitude → Except Fault Magnitude :=
  lift
    (fun m n =>
      if 0 ≤ n then .ok (wholePower m n.toNat)
      else do realPower (← toFloat m) (← toFloat n))
    realPower

end Magnitude

end Parametric
