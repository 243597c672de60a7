import Parametric.Text.Basic

/-! # The shortest decimal that reads back as a given double -/
namespace Parametric.Decimal

/-- A positive double is `mantissa * 2 ^ exponent`; `even` says that the ends of the interval of
reals that round to it belong to it, `low` that the gap below is half the gap above. -/
structure Binary where
  mantissa : Nat
  exponent : Int
  even : Bool
  low : Bool

/-- Zero, infinities and not-a-number have no such form; the sign is left out. -/
def Binary.ofFloat? (x : Float) : Option Binary :=
  let bits := x.toBits.toNat
  let biased : Nat := bits / Nat.pow 2 52 % Nat.pow 2 11
  let fraction : Nat := bits % Nat.pow 2 52
  if biased == 0x7FF || (biased == 0 && fraction == 0) then none
  else if biased == 0 then some ⟨fraction, -1074, fraction % 2 == 0, false⟩
  else some ⟨Nat.pow 2 52 + fraction, (biased : Int) - 1075, fraction % 2 == 0,
    fraction == 0 && biased != 1⟩

def Binary.quarter (b : Binary) : Nat × Nat :=
  let e := b.exponent - 2
  if 0 ≤ e then (Nat.pow 2 e.toNat, 1) else (1, Nat.pow 2 (-e).toNat)

structure Digits where
  digits : Nat
  power : Int

def scaled (n : Nat) (p : Int) : Nat × Nat :=
  if 0 ≤ p then (n * Nat.pow 10 p.toNat, 1) else (n, Nat.pow 10 (-p).toNat)

def less (x y : Nat × Nat) : Bool := x.1 * y.2 < y.1 * x.2

/-- Whether a decimal rounds to the double. -/
def Binary.catches (b : Binary) (d : Digits) : Bool :=
  let (u, v) := b.quarter
  let x := scaled d.digits d.power
  let lower := ((4 * b.mantissa - if b.low then 1 else 2) * u, v)
  let upper := ((4 * b.mantissa + 2) * u, v)
  if b.even then !less x lower && !less upper x else less lower x && less x upper

/-- Of the two neighbours on the grid of `10 ^ power`, those that round to the double,
the nearer one first and the even one of two equally near. -/
def Binary.onGrid (b : Binary) (power : Int) : Option Digits :=
  let (u, v) := b.quarter
  let (g, h) := scaled 1 power
  let num := 4 * b.mantissa * u * h
  let den := v * g
  let down := num / den
  let twice := 2 * (num % den)
  let nearUp := den < twice || (den == twice && down % 2 == 1)
  let first := if nearUp then down + 1 else down
  let second := if nearUp then down else down + 1
  [first, second].map (⟨·, power⟩) |>.find? fun d => d.digits != 0 && b.catches d

def Binary.leadingPlace (b : Binary) : Int :=
  let (u, v) := b.quarter
  let x := (4 * b.mantissa * u, v)
  let guess : Int := (Nat.toDigits 10 x.1).length - (Nat.toDigits 10 x.2).length
  if less x (scaled 1 guess) then guess - 1 else guess

/-- The coarsest grid with a hit; seventeen digits always hit. -/
def Binary.shortest (b : Binary) : Digits :=
  let place := b.leadingPlace
  let hits := (List.range 17).filterMap fun (k : Nat) => b.onGrid (place - k)
  hits.headD ⟨4 * b.mantissa * b.quarter.1 / b.quarter.2, 0⟩

def Digits.stripped (d : Digits) (fuel : Nat) : Digits :=
  match fuel with
  | 0 => d
  | fuel + 1 =>
    if d.digits != 0 && d.digits % 10 == 0 then
      Digits.stripped ⟨d.digits / 10, d.power + 1⟩ fuel
    else d

end Parametric.Decimal

namespace Parametric

/-- Positional from `10⁻⁴` up to below `10¹⁶`, always with a point; else one digit before the point
and a signed power of ten of two places or more. -/
def floatText (x : Float) : Text :=
  let sign : Text := if x.toBits.toNat / Nat.pow 2 63 == 1 then ['-'] else []
  match Decimal.Binary.ofFloat? x with
  | none => if x.isNaN then "nan" else if x == 0 then sign ++ "0.0" else sign ++ "inf"
  | some b =>
    let d := b.shortest.stripped 20
    let ds := Text.ofNat d.digits
    let place := d.power + ds.length - 1
    let zeros (n : Int) : Text := List.replicate n.toNat '0'
    let body : Text :=
      if -4 ≤ place && place < 16 then
        if place < 0 then "0." ++ zeros (-place - 1) ++ ds
        else if 0 ≤ d.power then ds ++ zeros d.power ++ ".0"
        else ds.take (place + 1).toNat ++ "." ++ ds.drop (place + 1).toNat
      else
        let places := Text.ofNat place.natAbs
        let point : Text := if ds.length == 1 then [] else ['.']
        ds.take 1 ++ point ++ ds.drop 1 ++ "e" ++ (if place < 0 then "-" else "+") ++
          zeros (2 - places.length) ++ places
    sign ++ body

end Parametric
