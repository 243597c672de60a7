import Parametric.Text.Basic
import Parametric.Text.Letter

/-! # Rewriting the usual spellings of quantities into operators -/
namespace Parametric.Quantity

def startsName (c : Char) : Bool := c.isAlpha || c == '_'

def continuesName (c : Char) : Bool := c.isAlphanum || c == '_'

/-- Applies a rule at every place, from left to right. A rule that fits gives its output and how
many characters it takes, at least one; `left` is the character before the place. -/
def rewriteFrom (rule : Option Char → Text → Option (Text × Nat)) (skip : Nat) (left : Option Char) :
    Text → Text
  | [] => []
  | c :: rest =>
    match skip with
    | skip + 1 => rewriteFrom rule skip (some c) rest
    | 0 =>
      match rule left (c :: rest) with
      | some (out, n) => out ++ rewriteFrom rule (n - 1) (some c) rest
      | none => c :: rewriteFrom rule 0 (some c) rest

def rewrite (rule : Option Char → Text → Option (Text × Nat)) (t : Text) : Text :=
  rewriteFrom rule 0 none t

def exchange (old new : Text) : Text → Text :=
  rewrite fun _ t => if old.isPrefixOf t then some (new, old.length) else none

def nameAt : Text → Text
  | c :: rest => if startsName c then c :: rest.takeWhile continuesName else []
  | [] => []

/-- A name with a word before and after it becomes that name with something appended. -/
def around (before after appended : Text) : Text → Text :=
  rewrite fun _ t =>
    let name := nameAt (t.drop before.length)
    if before.isPrefixOf t && !name.isEmpty &&
        after.isPrefixOf (t.drop (before.length + name.length)) then
      some (name ++ appended, before.length + name.length + after.length)
    else none

def bridge (before : Char → Bool) (after : Option Char → Bool) (sign : Text) : Text → Text :=
  rewrite fun _ t =>
    match t with
    | c :: rest =>
      let gap := rest.takeWhile isBlank
      if before c && !gap.isEmpty && after (rest.drop gap.length).head? then
        some (c :: sign, gap.length + 1)
      else none
    | [] => none

def decimalAt (t : Text) : Text :=
  let whole := t.takeWhile Char.isDigit
  match t.drop whole.length with
  | '.' :: rest => if whole.isEmpty then [] else whole ++ '.' :: rest.takeWhile Char.isDigit
  | _ => whole

/-- Whether a letter follows that opens no power of ten. -/
def opensUnit : Text → Bool
  | c :: rest =>
    (c.isAlpha && c != 'e' && c != 'E') ||
      ((c == 'e' || c == '|' || c == 'E') && (rest.head?.map Char.isAlpha).getD false)
  | [] => false

/-- A number that no word character precedes is multiplied by the letters glued to it. -/
def unglue : Text → Text :=
  rewrite fun left t =>
    let number := decimalAt t
    if (left.map isWordChar).getD false || number.isEmpty || !opensUnit (t.drop number.length) then
      none
    else some (number ++ ['*'], number.length)

def raisedDigits : Text := "⁰¹²³⁴⁵⁶⁷⁸⁹"

def isRaised (c : Char) : Bool := c ∈ raisedDigits

def raisedAt (t : Text) : Text :=
  let sign := t.takeWhile (· == '⁻') |>.take 1
  let whole := (t.drop sign.length).takeWhile isRaised
  if whole.isEmpty then []
  else sign ++ whole ++ match t.drop (sign.length + whole.length) with
    | '.' :: rest => '.' :: rest.takeWhile isRaised
    | _ => []

def raise : Text → Text :=
  rewrite fun _ t =>
    let number := raisedAt t
    if number.isEmpty then none else some ("**(" ++ number ++ ")", number.length)

def lowered (c : Char) : Char :=
  if isRaised c then Char.ofNat ('0'.toNat + (raisedDigits.takeWhile (· != c)).length)
  else if c == '·' then '*' else if c == '⁻' then '-' else c

def isTight (c : Char) : Bool := isWordChar c || c ∈ ['.', '-', '+', '*', '\\', '^']

def isOperandEnd (c : Char) : Bool := isWordChar c || c == '.' || c == ')'

def isOperandStart (c : Char) : Bool := isWordChar c || c == '('

def rules : List (Text → Text) :=
  [exchange "," [], exchange " per " "/", exchange "°" "degree",
    bridge isTight (fun _ => true) " ",
    around [] " squared" "**2", around [] " cubed" "**3",
    around "cubic " [] "**3", around "square " [] "**2", around "sq " [] "**2",
    unglue,
    bridge isOperandEnd (fun c => (c.map isOperandStart).getD false) "*",
    raise, List.map lowered, exchange "^" "**"]

def normalize (t : Text) : Text := rules.foldl (fun t rule => rule t) t

end Parametric.Quantity
