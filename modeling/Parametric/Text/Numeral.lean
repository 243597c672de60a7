import Parametric.Text.Basic

/-! # Decimal digits of every script, numerals and which of them denote a finite double -/
namespace Parametric

/-- The zeros of the scripts, general category `Nd`; the other nine digits follow each in order. -/
def decimalZeros : List Nat :=
  [0x30, 0x660, 0x6F0, 0x7C0, 0x966, 0x9E6, 0xA66, 0xAE6, 0xB66, 0xBE6, 0xC66, 0xCE6, 0xD66,
   0xDE6, 0xE50, 0xED0, 0xF20, 0x1040, 0x1090, 0x17E0, 0x1810, 0x1946, 0x19D0, 0x1A80, 0x1A90,
   0x1B50, 0x1BB0, 0x1C40, 0x1C50, 0xA620, 0xA8D0, 0xA900, 0xA9D0, 0xA9F0, 0xAA50, 0xABF0, 0xFF10,
   0x104A0, 0x10D30, 0x11066, 0x110F0, 0x11136, 0x111D0, 0x112F0, 0x11450, 0x114D0, 0x11650,
   0x116C0, 0x11730, 0x118E0, 0x11950, 0x11C50, 0x11D50, 0x11DA0, 0x16A60, 0x16AC0, 0x16B50,
   0x1D7CE, 0x1D7D8, 0x1D7E2, 0x1D7EC, 0x1D7F6, 0x1E140, 0x1E2F0, 0x1E950, 0x1FBF0]

def digitValue? (c : Char) : Option Nat :=
  if c.toNat < 0x80 then if c.isDigit then some (c.toNat - '0'.toNat) else none
  else (decimalZeros.find? fun z => z ≤ c.toNat && c.toNat < z + 10).map (c.toNat - ·)

def isDecimalDigit (c : Char) : Bool := (digitValue? c).isSome

/-- A sign, digits without leading zeros, and a power of ten that multiplies them. -/
structure Numeral where
  negative : Bool
  digits : List Nat
  exponent : Int

namespace Numeral

/-- Blanks around a numeral; the four information separators are blanks elsewhere only. -/
def isMargin (c : Char) : Bool := isBlank c && !(0x1C ≤ c.toNat && c.toNat ≤ 0x1F)

/-- The digits at the front, low lines between them left out, and what follows.
Nothing when a low line stands at either end of them. -/
def digitRun (afterDigit : Bool) : Text → Option (List Nat × Text)
  | [] => some ([], [])
  | '_' :: rest =>
    match rest with
    | c :: _ =>
      if afterDigit && isDecimalDigit c then digitRun false rest else none
    | [] => none
  | c :: rest =>
    match digitValue? c with
    | some d => (digitRun true rest).map fun (ds, more) => (d :: ds, more)
    | none => some ([], c :: rest)

def ofDigits (ds : List Nat) : Nat := ds.foldl (fun n d => 10 * n + d) 0

def sign : Text → Bool × Text
  | '-' :: rest => (true, rest)
  | '+' :: rest => (false, rest)
  | t => (false, t)

def exponent? : Text → Option Int
  | [] => some 0
  | c :: rest =>
    if c == 'e' || c == 'E' then
      let (negative, t) := sign rest
      match digitRun false t with
      | some (d :: ds, []) =>
        let n : Int := ofDigits (d :: ds)
        some (if negative then -n else n)
      | _ => none
    else none

def read? (t : Text) : Option Numeral := do
  let (negative, t) := sign (t.trimBy isMargin)
  let (whole, t) ← digitRun false t
  let (part, t) ← match t with
    | '.' :: rest => digitRun false rest
    | t => some ([], t)
  if whole.isEmpty && part.isEmpty then none
  else
    let e ← exponent? t
    some ⟨negative, (whole ++ part).dropWhile (· == 0), e - part.length⟩

/-- Half a unit above the greatest double; what lies below rounds to a double. -/
def finiteBound : Nat := Nat.pow 2 1024 - Nat.pow 2 970

def isFinite (n : Numeral) : Bool :=
  let places : Int := n.digits.length + n.exponent
  if n.digits.isEmpty || places < 300 then true
  else if 320 < places then false
  else if 0 ≤ n.exponent then ofDigits n.digits * Nat.pow 10 n.exponent.toNat < finiteBound
  else ofDigits n.digits < finiteBound * Nat.pow 10 (-n.exponent).toNat

def toFloat (n : Numeral) : Float :=
  let places : Int := n.digits.length + n.exponent
  let size :=
    if n.digits.isEmpty || places < -400 then 0
    else if 400 < places then 1 / 0
    else Float.ofScientific (ofDigits n.digits) (n.exponent < 0) n.exponent.natAbs
  if n.negative then -size else size

end Numeral

def Text.isNumeric (t : Text) : Bool :=
  match Numeral.read? t with
  | some n => n.isFinite
  | none => false

end Parametric
