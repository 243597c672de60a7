/-! # Texts as lists of characters: blanks, trimming, lines and joining -/
namespace Parametric

/-- Positions and lengths of a text count code points. -/
abbrev Text := List Char

instance : Coe String Text := ⟨String.toList⟩

instance : LawfulBEq Text := inferInstance

/-- Whitespace of every script. The zero-width space and the byte order mark are none. -/
def isBlank (c : Char) : Bool :=
  let n := c.toNat
  (0x09 ≤ n && n ≤ 0x0D) || (0x1C ≤ n && n ≤ 0x20) || n == 0x85 || n == 0xA0 || n == 0x1680 ||
    (0x2000 ≤ n && n ≤ 0x200A) || n == 0x2028 || n == 0x2029 || n == 0x202F || n == 0x205F ||
    n == 0x3000

def isLineEnd (c : Char) : Bool :=
  let n := c.toNat
  (0x0A ≤ n && n ≤ 0x0D) || (0x1C ≤ n && n ≤ 0x1E) || n == 0x85 || n == 0x2028 || n == 0x2029

namespace Text

/-- Takes the characters of `p` off both ends. -/
def trimBy (p : Char → Bool) (t : Text) : Text :=
  ((t.dropWhile p).reverse.dropWhile p).reverse

def trim (t : Text) : Text := t.trimBy isBlank

def isBlank (t : Text) : Bool := t.all Parametric.isBlank

/-- `line` holds the open line, last character first. -/
def linesFrom (line : Text) : Text → List Text
  | [] => if line.isEmpty then [] else [line.reverse]
  | '\r' :: '\n' :: rest => line.reverse :: linesFrom [] rest
  | c :: rest =>
    if isLineEnd c then line.reverse :: linesFrom [] rest else linesFrom (c :: line) rest

def lines (t : Text) : List Text := linesFrom [] t

/-- The pieces between the characters of `p`, one more than there are such characters. -/
def cutBy (p : Char → Bool) : Text → List Text
  | [] => [[]]
  | c :: rest =>
    if p c then [] :: cutBy p rest
    else match cutBy p rest with
      | [] => [[c]]
      | piece :: pieces => (c :: piece) :: pieces

def joined (sep : Text) (ts : List Text) : Text := List.intercalate sep ts

def ofNat (n : Nat) : Text := Nat.toDigits 10 n

def ofInt : Int → Text
  | .ofNat n => ofNat n
  | .negSucc n => '-' :: ofNat (n + 1)

def before : Text → Text → Bool
  | _, [] => false
  | [], _ :: _ => true
  | a :: s, b :: t => a < b || (a == b && before s t)

def sorted (ts : List Text) : List Text := ts.mergeSort fun s t => !before t s

end Text

def written? (t : Option Text) : Option Text := t.filter (! ·.isBlank)

theorem written?_eq_some_iff {t : Option Text} {f : Text} :
    written? t = some f ↔ t = some f ∧ f.isBlank = false := by
  simp [written?, Option.filter_eq_some_iff]

@[simp] theorem written?_none : written? none = none := rfl

@[simp] theorem written?_written? (t : Option Text) : written? (written? t) = written? t := by
  simp [written?]

/-- A range of code points. Tables of character properties are made of them. -/
structure CodeRange where
  first : Nat
  last : Nat

def CodeRange.holds (r : CodeRange) (c : Char) : Bool := r.first ≤ c.toNat && c.toNat ≤ r.last

end Parametric
