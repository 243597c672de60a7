import Parametric.Text.Basic

/-! # Reading UTF-8: shortest forms only, no surrogates -/
namespace Parametric

/-- What bytes are read as. A broken stream goes on after its text with a byte that begins or ends no
character. -/
structure TextStream where
  text : Text
  isBroken : Bool

def TextStream.push (c : Char) (s : TextStream) : TextStream := ⟨c :: s.text, s.isBroken⟩

namespace Utf8

def isTail (b : UInt8) : Bool := 0x80 ≤ b && b ≤ 0xBF

def tailBits (b : UInt8) : Nat := b.toNat - 0x80

def decode : List UInt8 → TextStream
  | [] => ⟨[], false⟩
  | a :: rest =>
    if a < 0x80 then (decode rest).push (Char.ofNat a.toNat)
    else match rest with
      | b :: rest₁ =>
        if !isTail b then ⟨[], true⟩
        else if 0xC2 ≤ a && a ≤ 0xDF then
          (decode rest₁).push (Char.ofNat ((a.toNat - 0xC0) * 0x40 + tailBits b))
        else match rest₁ with
          | c :: rest₂ =>
            if !isTail c then ⟨[], true⟩
            else
              let n := tailBits b * 0x40 + tailBits c
              if 0xE0 ≤ a && a ≤ 0xEF then
                let n := (a.toNat - 0xE0) * 0x1000 + n
                if n < 0x800 || (0xD800 ≤ n && n < 0xE000) then ⟨[], true⟩
                else (decode rest₂).push (Char.ofNat n)
              else match rest₂ with
                | d :: rest₃ =>
                  let n := (a.toNat - 0xF0) * 0x40000 + n * 0x40 + tailBits d
                  if !isTail d || a < 0xF0 || n < 0x10000 || 0x110000 ≤ n then ⟨[], true⟩
                  else (decode rest₃).push (Char.ofNat n)
                | [] => ⟨[], true⟩
          | [] => ⟨[], true⟩
      | [] => ⟨[], true⟩

end Utf8

end Parametric
