import Parametric.Text.Basic

/-! # Places in a YAML text, and the kinds of characters that end things there -/
namespace Parametric.Yaml

/-- What can be wrong with a document. All but the first concern values of well-formed ones. -/
inductive Fault
  | malformed
  | badCodePoint
  | badNumber
  | emptyNumber
  | badTruth
  | noMoment
  | badMoment
  | noText
  | overflow

def digitLimit : Nat := 4300

/-- Stands for the end of the text, which holds no such character itself. -/
def endMark : Char := '\x00'

def isBreak (c : Char) : Bool := c == '\n' || c == '\u0085' || c == '\u2028' || c == '\u2029'

def endsLine (c : Char) : Bool := isBreak c || c == endMark

def endsWord (c : Char) : Bool := c == ' ' || endsLine c

def endsToken (c : Char) : Bool := c == '\t' || endsWord c

/-- The text from a place on; indices and columns count characters, lines count breaks. -/
structure Cursor where
  rest : Text
  index : Nat
  line : Nat
  column : Nat

namespace Cursor

def start (t : Text) : Cursor := ⟨t, 0, 0, 0⟩

def peekAt (c : Cursor) (n : Nat) : Char := (c.rest.drop n).headD endMark

def peek (c : Cursor) : Char := c.rest.headD endMark

def next (c : Cursor) : Cursor :=
  match c.rest with
  | [] => c
  | x :: rest =>
    if isBreak x then ⟨rest, c.index + 1, c.line + 1, 0⟩
    else ⟨rest, c.index + 1, c.line, if x == '\ufeff' then c.column else c.column + 1⟩

def skip (c : Cursor) : Nat → Cursor
  | 0 => c
  | n + 1 => c.next.skip n

def span (c : Cursor) (p : Char → Bool) : Text × Cursor :=
  let t := c.rest.takeWhile p
  (t, c.skip t.length)

def skipWhile (c : Cursor) (p : Char → Bool) : Cursor := (c.span p).2

/-- Takes a line break, if there is one; all but two kinds become a line feed. -/
def lineBreak (c : Cursor) : Text × Cursor :=
  let x := c.peek
  if x == '\n' || x == '\u0085' then (['\n'], c.next)
  else if isBreak x then ([x], c.next)
  else ([], c)

def startsWith (c : Cursor) (t : Text) : Bool := t.isPrefixOf c.rest

def atDocumentMark (c : Cursor) : Bool :=
  (c.startsWith "---" || c.startsWith "...") && endsToken (c.peekAt 3)

def skipComment (c : Cursor) : Cursor :=
  let c := c.skipWhile (· == ' ')
  if c.peek == '#' then c.skipWhile (! endsLine ·) else c

def finishLine (c : Cursor) : Except Fault Cursor :=
  let c := c.skipComment
  if endsLine c.peek then .ok c.lineBreak.2 else .error .malformed

end Cursor

/-- Tabs, line ends and all that has a shape or a use for text; no other control characters. -/
def isAllowed (c : Char) : Bool :=
  let n := c.toNat
  n == 0x09 || n == 0x0A || n == 0x0D || (0x20 ≤ n && n ≤ 0x7E) || n == 0x85 ||
    (0xA0 ≤ n && n ≤ 0xD7FF) || (0xE000 ≤ n && n ≤ 0xFFFD) || 0x10000 ≤ n

/-- Carriage returns, alone or before a line feed, are read as line feeds. -/
def unifyBreaks : Text → Text
  | '\r' :: '\n' :: rest => '\n' :: unifyBreaks rest
  | '\r' :: rest => '\n' :: unifyBreaks rest
  | c :: rest => c :: unifyBreaks rest
  | [] => []

end Parametric.Yaml
