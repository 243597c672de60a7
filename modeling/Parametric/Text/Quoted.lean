import Parametric.Text.Basic
import Parametric.Text.Printable

/-! # Quoted texts: one line, every character visible -/
namespace Parametric.Quoted

def hexDigits (width n : Nat) : Text :=
  let ds := Nat.toDigits 16 n
  List.replicate (width - ds.length) '0' ++ ds

/-- A character that is not printable is shown by its code point, in the shortest of three widths. -/
def hidden (c : Char) : Text :=
  let n := c.toNat
  if n < 0x100 then '\\' :: 'x' :: hexDigits 2 n
  else if n < 0x10000 then '\\' :: 'u' :: hexDigits 4 n
  else '\\' :: 'U' :: hexDigits 8 n

def encodeChar (quote c : Char) : Text :=
  if c == quote || c == '\\' then ['\\', c]
  else if c == '\n' then ['\\', 'n']
  else if c == '\r' then ['\\', 'r']
  else if c == '\t' then ['\\', 't']
  else if isPrintable c then [c]
  else hidden c

/-- Single quotes, but double ones around a text that holds single quotes only. -/
def quoteFor (t : Text) : Char := if '\'' ∈ t && '"' ∉ t then '"' else '\''

end Parametric.Quoted

namespace Parametric

def Text.quoted (t : Text) : Text :=
  let q := Quoted.quoteFor t
  q :: t.flatMap (Quoted.encodeChar q) ++ [q]

def quotedBytes (bs : List UInt8) : Text :=
  let t : Text := bs.map fun b => Char.ofNat b.toNat
  let q := Quoted.quoteFor t
  let encode (c : Char) : Text :=
    if c.toNat < 0x80 then Quoted.encodeChar q c else Quoted.hidden c
  'b' :: q :: t.flatMap encode ++ [q]

end Parametric
