import Parametric.Quantity.Magnitude
import Parametric.Text.Letter
import Parametric.Text.Numeral

/-! # Quantities as tokens: numbers, names, operators and round brackets -/
namespace Parametric.Quantity

open Calculation (Fault)

inductive Op
  | add
  | sub
  | mul
  | div
  | floorDiv
  | remainder
  | power
  deriving DecidableEq

/-- A number is absent when its spelling is one of a number but of no real one. -/
inductive Token
  | number (value : Option Magnitude)
  | name (text : Text)
  | op (op : Op)
  | opening
  | closing

def runLength (p : Char → Bool) : Text → Nat
  | c :: '_' :: e :: rest =>
    if p c then if p e then 2 + runLength p (e :: rest) else 1 else 0
  | c :: rest => if p c then 1 + runLength p rest else 0
  | [] => 0

def digitsLength : Text → Nat := runLength Char.isDigit

def exponentLength : Text → Nat
  | c :: rest =>
    if c == 'e' || c == 'E' then
      let sign := if rest.head? == some '+' || rest.head? == some '-' then 1 else 0
      let n := digitsLength (rest.drop sign)
      if n == 0 then 0 else 1 + sign + n
    else 0
  | [] => 0

def realLength (t : Text) : Nat :=
  let whole := digitsLength t
  match t.drop whole with
  | '.' :: rest =>
    let part := digitsLength rest
    if whole == 0 && part == 0 then 0
    else whole + 1 + part + exponentLength (rest.drop part)
  | rest =>
    let power := exponentLength rest
    if whole == 0 || power == 0 then 0 else whole + power

/-- The length of a number in another base; it has to have a digit of that base. -/
def basedLength : Text → Nat
  | '0' :: mark :: rest =>
    let digit : Char → Bool :=
      if mark == 'x' || mark == 'X' then fun c => c.isDigit || ('a' ≤ c.toLower && c.toLower ≤ 'f')
      else if mark == 'b' || mark == 'B' then fun c => c == '0' || c == '1'
      else if mark == 'o' || mark == 'O' then fun c => '0' ≤ c && c ≤ '7'
      else fun _ => false
    let gap := if rest.head? == some '_' then 1 else 0
    let n := runLength digit (rest.drop gap)
    if n == 0 then 0 else 2 + gap + n
  | _ => 0

def wholeLength (t : Text) : Nat :=
  if t.head? == some '0' then runLength (· == '0') t else digitsLength t

def number? (t : Text) : Option (Option Magnitude × Nat) :=
  let real := realLength t
  let digits := digitsLength t
  let imaginary (n : Nat) : Bool := 0 < n && ((t.drop n).head?.map fun c => c == 'j' || c == 'J') == some true
  if imaginary digits then some (none, digits + 1)
  else if imaginary real then some (none, real + 1)
  else if 0 < real then
    some ((Numeral.read? (t.take real)).map fun n => .real n.toFloat, real)
  else if 0 < basedLength t then some (none, basedLength t)
  else if 0 < wholeLength t then
    let n := wholeLength t
    some ((Numeral.read? (t.take n)).map fun n => .whole (Numeral.ofDigits n.digits), n)
  else none

def stringMarks : List Text := ["", "b", "r", "u", "f", "br", "rb", "fr", "rf"]

/-- What follows the closing quotes, of which there are as many as there were opening ones. -/
def afterString (quote : Text) (multiline : Bool) : Nat → Text → Option Text
  | 0, _ => none
  | fuel + 1, t =>
    if quote.isPrefixOf t then some (t.drop quote.length)
    else match t with
      | [] => none
      | '\\' :: c :: rest =>
        if c == '\n' && !multiline then none else afterString quote multiline fuel rest
      | c :: rest => if c == '\n' && !multiline then none else afterString quote multiline fuel rest

inductive Literal
  | none
  | unclosed
  | closed (rest : Text)

def literal (t : Text) : Literal :=
  let mark := t.takeWhile fun c => c.isAlpha
  if mark.map Char.toLower ∉ stringMarks then .none
  else match t.drop mark.length with
    | q :: rest =>
      if q != '"' && q != '\'' then .none
      else if [q, q].isPrefixOf rest then
        match afterString [q, q, q] true t.length (rest.drop 2) with
        | some rest => .closed rest
        | none => .unclosed
      else match afterString [q] false t.length rest with
        | some rest => .closed rest
        | none => .none
    | [] => .none

/-- The signs that are one token, longer ones before their beginnings. -/
def signs : List Text :=
  ["**=", "//=", ">>=", "<<=", "...", "!=", "**", "//", "->", "+=", "-=", "*=", "/=", "%=", "&=", "|=",
    "^=", "@=", "==", "<=", ">=", "<<", ">>", ":="]

def signLength (t : Text) : Nat :=
  match signs.find? (·.isPrefixOf t) with
  | some s => s.length
  | none => 1

def opOf? (sign : Text) : Option Op :=
  if sign == ['+'] then some .add
  else if sign == ['-'] then some .sub
  else if sign == ['*'] then some .mul
  else if sign == ['/'] then some .div
  else if sign == ['/', '/'] then some .floorDiv
  else if sign == ['%'] then some .remainder
  else if sign == ['*', '*'] then some .power
  else none

/-- Bracket depth, indentations of the lines around, innermost first, and whether a line begins. -/
structure Place where
  depth : Int
  indents : List Nat
  fresh : Bool

def indentOf (column : Nat) : Text → Nat × Text
  | ' ' :: rest => indentOf (column + 1) rest
  | '\t' :: rest => indentOf ((column / 8 + 1) * 8) rest
  | '\x0c' :: rest => indentOf 0 rest
  | t => (column, t)

/-- The indentations after a line at `column`, which must go back to an earlier one or go deeper. -/
def indented? (column : Nat) (indents : List Nat) : Option (List Nat) :=
  match indents.dropWhile (column < ·) with
  | [] => none
  | top :: rest =>
    if top == column then some (top :: rest)
    else if indents.head? == some top then some (column :: top :: rest)
    else none

/-- Tokens that are no numbers, names, operators or round brackets are left out. -/
def lex : Nat → Place → Text → Except Fault (List Token)
  | 0, _, _ => .error .unreadable
  | fuel + 1, p, t =>
    if p.fresh && p.depth == 0 then
      match indentOf 0 t with
      | (_, []) => .ok []
      | (column, c :: rest) =>
        if c == '#' || c == '\r' || c == '\n' then
          lex fuel p (((c :: rest).dropWhile (· != '\n')).drop 1)
        else match indented? column p.indents with
          | some indents => lex fuel { p with indents, fresh := false } (c :: rest)
          | none => .error .unreadable
    else match t with
      | [] => if p.depth == 0 then .ok [] else .error .unreadable
      | c :: rest =>
        let p := { p with fresh := false }
        if c == '#' then lex fuel p (rest.dropWhile fun c => c != '\r' && c != '\n')
        else match literal t with
          | .unclosed => .error .unreadable
          | .closed rest => lex fuel p rest
          | .none =>
            match number? t with
            | some (value, n) => do return .number value :: (← lex fuel p (t.drop n))
            | none =>
              if c == '\n' then lex fuel { p with fresh := true } rest
              else if c == '(' then do return .opening :: (← lex fuel { p with depth := p.depth + 1 } rest)
              else if c == ')' then do return .closing :: (← lex fuel { p with depth := p.depth - 1 } rest)
              else if c == '[' || c == '\x7b' then lex fuel { p with depth := p.depth + 1 } rest
              else if c == ']' || c == '\x7d' then lex fuel { p with depth := p.depth - 1 } rest
              else if isWordChar c then
                let word := t.takeWhile isWordChar
                let rest := t.drop word.length
                if isIdentifierStart c then do return .name word :: (← lex fuel p rest)
                else lex fuel p rest
              else
                let n := signLength t
                match opOf? (t.take n) with
                | some op => do return .op op :: (← lex fuel p (t.drop n))
                | none => lex fuel p (t.drop n)

def tokens (t : Text) : Except Fault (List Token) := lex (2 * t.length + 2) ⟨0, [0], true⟩ t

end Parametric.Quantity
