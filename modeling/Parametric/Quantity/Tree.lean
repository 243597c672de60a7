import Parametric.Quantity.Token

/-! # Quantities as trees of operations -/
namespace Parametric.Quantity

open Calculation (Fault)

inductive Tree
  | number (value : Option Magnitude)
  | name (text : Text)
  | unary (op : Op) (x : Tree)
  | binary (op : Op) (x y : Tree)

/-- What the operand that is being read belongs to. -/
inductive Side
  | whole
  | bracket
  | sign
  | after (op : Op)
  | beside

namespace Side

def rank : Op → Nat
  | .add | .sub => 0
  | .mul | .div | .floorDiv | .remainder => 1
  | .power => 3

def besideRank : Nat := 1

def endsAt (r : Nat) : Side → Bool
  | whole | bracket => false
  | sign => r ≤ 2
  | after op => r ≤ rank op
  | beside => r ≤ besideRank

end Side

/-- Reads an operand, `sofar` being what there is of it, and gives what follows.
Powers group to the right, all else to the left; operands side by side are multiplied. -/
def grow : Nat → Side → Option Tree → List Token → Except Fault (Tree × List Token)
  | 0, _, _, _ => .error .unreadable
  | _ + 1, .bracket, _, [] => .error .unreadable
  | _ + 1, _, none, [] => .error .missingOperand
  | _ + 1, _, some x, [] => .ok (x, [])
  | _ + 1, .whole, _, .closing :: _ => .error .unreadable
  | _ + 1, _, none, .closing :: _ => .error .missingOperand
  | _ + 1, .bracket, some x, .closing :: rest => .ok (x, rest)
  | _ + 1, _, some x, .closing :: rest => .ok (x, .closing :: rest)
  | fuel + 1, side, sofar, .opening :: rest => do
    let (y, rest) ← grow fuel .bracket none rest
    match sofar with
    | some x => grow fuel side (some (.binary .mul x y)) rest
    | none => grow fuel side (some y) rest
  | fuel + 1, side, some x, .op op :: rest =>
    if side.endsAt (Side.rank op) && op != .power then .ok (x, .op op :: rest)
    else do
      let (y, rest) ← grow fuel (.after op) none rest
      grow fuel side (some (.binary op x y)) rest
  | fuel + 1, side, none, .op op :: rest => do
    let (y, rest) ← grow fuel .sign none rest
    grow fuel side (some (.unary op y)) rest
  | fuel + 1, side, some x, token :: rest =>
    if side.endsAt Side.besideRank then .ok (x, token :: rest)
    else do
      let (y, rest) ← grow fuel .beside none (token :: rest)
      grow fuel side (some (.binary .mul x y)) rest
  | fuel + 1, side, none, .number v :: rest => grow fuel side (some (.number v)) rest
  | fuel + 1, side, none, .name t :: rest => grow fuel side (some (.name t)) rest

def tree (ts : List Token) : Except Fault Tree := do
  return (← grow (2 * ts.length + 2) .whole none ts).1

end Parametric.Quantity
