import Parametric.Yaml.Cursor

/-! # Scalars of a YAML text: plain, quoted and block ones -/
namespace Parametric.Yaml

def isGap (c : Char) : Bool := c == ' ' || c == '\t'

/-- Empty lines inside a quoted scalar; no document may begin or end there. -/
def quotedBreaks : Nat → Text → Cursor → Except Fault (Text × Cursor)
  | 0, _, _ => .error .malformed
  | fuel + 1, found, c =>
    if c.atDocumentMark then .error .malformed
    else
      let c := c.skipWhile isGap
      if isBreak c.peek then
        let (b, c) := c.lineBreak
        quotedBreaks fuel (found ++ b) c
      else .ok (found, c)

/-- One line feed becomes a blank, unless empty lines follow; other breaks stay. -/
def folded (first more : Text) : Text :=
  (if first == ['\n'] then if more.isEmpty then [' '] else [] else first) ++ more

def quotedGap (c : Cursor) : Except Fault (Text × Cursor) :=
  let (gap, c) := c.span isGap
  if c.peek == endMark then .error .malformed
  else if isBreak c.peek then do
    let (first, c) := c.lineBreak
    let (more, c) ← quotedBreaks (c.rest.length + 1) [] c
    return (folded first more, c)
  else .ok (gap, c)

def escapes : List (Char × Char) :=
  [('0', '\x00'), ('a', '\x07'), ('b', '\x08'), ('t', '\t'), ('\t', '\t'), ('n', '\n'),
    ('v', '\x0b'), ('f', '\x0c'), ('r', '\r'), ('e', '\x1b'), (' ', ' '), ('"', '"'), ('\\', '\\'),
    ('/', '/'), ('N', '\u0085'), ('_', '\u00a0'), ('L', '\u2028'), ('P', '\u2029')]

def hexWidths : List (Char × Nat) := [('x', 2), ('u', 4), ('U', 8)]

def hexValue? (c : Char) : Option Nat :=
  if c.isDigit then some (c.toNat - '0'.toNat)
  else if 'a' ≤ c.toLower && c.toLower ≤ 'f' then some (c.toLower.toNat - 'a'.toNat + 10)
  else none

def hexNumber? (t : Text) : Option Nat :=
  t.foldl (fun n c => do return (← n) * 16 + (← hexValue? c)) (some 0)

def escaped (c : Cursor) : Except Fault (Text × Cursor) :=
  match escapes.find? fun e => e.1 == c.peek && !c.rest.isEmpty with
  | some (_, x) => .ok ([x], c.next)
  | none =>
    match hexWidths.find? fun w => w.1 == c.peek with
    | some (_, width) =>
      let c := c.next
      let digits := c.rest.take width
      if digits.length < width then .error .malformed
      else match hexNumber? digits with
        | none => .error .malformed
        | some n =>
          if 0x110000 ≤ n then .error .badCodePoint
          else
            let x := if 0xD800 ≤ n && n < 0xE000 then '\ufffd' else Char.ofNat n
            .ok ([x], c.skip width)
    | none =>
      if isBreak c.peek then quotedBreaks (c.rest.length + 1) [] c.lineBreak.2
      else .error .malformed

def quotedFrom (quote : Char) : Nat → Text → Cursor → Except Fault (Text × Cursor)
  | 0, _, _ => .error .malformed
  | fuel + 1, found, c =>
    let x := c.peek
    if x == quote then
      if quote == '\'' && c.peekAt 1 == '\'' then quotedFrom quote fuel (found ++ ['\'']) (c.skip 2)
      else .ok (found, c.next)
    else if x == '\\' && quote == '"' then do
      let (t, c) ← escaped c.next
      quotedFrom quote fuel (found ++ t) c
    else if isGap x || endsLine x then do
      let (t, c) ← quotedGap c
      quotedFrom quote fuel (found ++ t) c
    else quotedFrom quote fuel (found ++ [x]) c.next

def quoted (c : Cursor) : Except Fault (Text × Cursor) :=
  quotedFrom c.peek (c.rest.length + 1) [] c.next

/-- Brackets, braces, commas and question marks end a plain scalar inside a flow collection. -/
def isFlowMark (c : Char) : Bool := c ∈ [',', '?', '[', ']', '\x7b', '\x7d']

def endsPlain (inFlow : Bool) : Text → Bool
  | [] => true
  | c :: rest =>
    let after := rest.headD endMark
    endsToken c || (inFlow && isFlowMark c) ||
      (c == ':' && (endsToken after || (inFlow && after ∈ [',', '[', ']', '\x7b', '\x7d'])))

def plainLength (inFlow : Bool) : Text → Nat
  | [] => 0
  | c :: rest => if endsPlain inFlow (c :: rest) then 0 else 1 + plainLength inFlow rest

/-- Blanks and empty lines after a line break in a plain scalar; nothing at a document mark. -/
def plainBreaks : Nat → Text → Cursor → Option Text × Cursor
  | 0, found, c => (some found, c)
  | fuel + 1, found, c =>
    if c.peek == ' ' then plainBreaks fuel found c.next
    else if isBreak c.peek then
      let (b, c) := c.lineBreak
      if c.atDocumentMark then (none, c) else plainBreaks fuel (found ++ b) c
    else (some found, c)

/-- What stands for the gap after a word of a plain scalar, and whether it holds a line break.
An empty text means that the scalar ends there. -/
def plainGap (c : Cursor) : Text × Bool × Cursor :=
  let (gap, c) := c.span (· == ' ')
  if isBreak c.peek then
    let (first, c) := c.lineBreak
    if c.atDocumentMark then ([], true, c)
    else
      match plainBreaks (c.rest.length + 1) [] c with
      | (some more, c) => (folded first more, true, c)
      | (none, c) => ([], true, c)
  else (gap, false, c)

/-- A plain scalar over lines of at least `indent` columns; whether a key may follow is kept. -/
def plainFrom (inFlow : Bool) (indent : Int) : Nat → Text → Text → Bool → Cursor →
    Text × Bool × Cursor
  | 0, found, _, mayBeKey, c => (found, mayBeKey, c)
  | fuel + 1, found, gap, mayBeKey, c =>
    let n := plainLength inFlow c.rest
    if c.peek == '#' || n == 0 then (found, mayBeKey, c)
    else
      let found := found ++ gap ++ c.rest.take n
      let (gap, broken, c) := plainGap (c.skip n)
      if gap.isEmpty || c.peek == '#' || (!inFlow && c.column < indent) then (found, broken, c)
      else plainFrom inFlow indent fuel found gap broken c

def plain (inFlow : Bool) (indent : Int) (mayBeKey : Bool) (c : Cursor) : Text × Bool × Cursor :=
  plainFrom inFlow indent (c.rest.length + 1) [] [] mayBeKey c

inductive Chomping
  | strip
  | clip
  | keep

def chomping? (c : Char) : Option Chomping :=
  if c == '+' then some .keep else if c == '-' then some .strip else none

def blockHeader (c : Cursor) : Except Fault (Chomping × Option Nat × Cursor) :=
  let (first, c) := match chomping? c.peek with
    | some m => (some m, c.next)
    | none => (none, c)
  let digit := c.peek
  let increment := if digit.isDigit then some (digit.toNat - '0'.toNat) else none
  let c := if digit.isDigit then c.next else c
  let (mark, c) := match first, increment, chomping? c.peek with
    | none, some _, some m => (some m, c.next)
    | _, _, _ => (first, c)
  if increment == some 0 || !endsWord c.peek then .error .malformed
  else .ok (mark.getD .clip, increment, c)

/-- Empty lines at the start of a block scalar, and the deepest indentation among them. -/
def blockStart : Nat → Text → Nat → Cursor → Text × Nat × Cursor
  | 0, found, deepest, c => (found, deepest, c)
  | fuel + 1, found, deepest, c =>
    if c.peek == ' ' then
      let c := c.next
      blockStart fuel found (max deepest c.column) c
    else if isBreak c.peek then
      let (b, c) := c.lineBreak
      blockStart fuel (found ++ b) deepest c
    else (found, deepest, c)

def toColumn (indent : Nat) : Nat → Cursor → Cursor
  | 0, c => c
  | fuel + 1, c => if c.column < indent && c.peek == ' ' then toColumn indent fuel c.next else c

/-- Empty lines inside a block scalar, and then blanks up to its indentation. -/
def blockBreaks (indent : Nat) : Nat → Text → Cursor → Text × Cursor
  | 0, found, c => (found, c)
  | fuel + 1, found, c =>
    let c := toColumn indent indent c
    if isBreak c.peek then
      let (b, c) := c.lineBreak
      blockBreaks indent fuel (found ++ b) c
    else (found, c)

def blockLines (isFolded : Bool) (indent : Nat) : Nat → Text → Text → Text → Cursor →
    Text × Text × Text × Cursor
  | 0, found, last, breaks, c => (found, last, breaks, c)
  | fuel + 1, found, last, breaks, c =>
    if c.column == indent && c.peek != endMark then
      let deeper := isGap c.peek
      let (line, c) := c.span (! endsLine ·)
      let found := found ++ breaks ++ line
      let (last, c) := c.lineBreak
      let (breaks, c) := blockBreaks indent (c.rest.length + 1) [] c
      if c.column == indent && c.peek != endMark then
        let joint : Text :=
          if isFolded && last == ['\n'] && !deeper && !isGap c.peek then
            if breaks.isEmpty then [' '] else []
          else last
        blockLines isFolded indent fuel (found ++ joint) [] breaks c
      else (found, last, breaks, c)
    else (found, last, breaks, c)

def block (parent : Int) (c : Cursor) : Except Fault (Text × Cursor) := do
  let isFolded := c.peek == '>'
  let (chomping, increment, c) ← blockHeader c.next
  let c ← c.finishLine
  let least := (max (parent + 1) 1).toNat
  let fuel := c.rest.length + 1
  let (breaks, indent, c) := match increment with
    | some n =>
      let indent := least + n - 1
      let (breaks, c) := blockBreaks indent fuel [] c
      (breaks, indent, c)
    | none =>
      let (breaks, deepest, c) := blockStart fuel [] 0 c
      (breaks, max least deepest, c)
  let (found, last, breaks, c) := blockLines isFolded indent fuel [] [] breaks c
  let ending : Text := match chomping with
    | .strip => []
    | .clip => last
    | .keep => last ++ breaks
  return (found ++ ending, c)

end Parametric.Yaml
