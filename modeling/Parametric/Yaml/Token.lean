import Parametric.Yaml.Scalar
import Parametric.Text.Utf8

/-! # YAML texts as tokens, with the starts and ends that indentation stands for -/
namespace Parametric.Yaml

inductive Directive
  | version (major minor : Nat)
  | tag (handle begin : Text)
  | unknown

inductive Token
  | directive (d : Directive)
  | documentStart
  | documentEnd
  | blockSequence
  | blockMapping
  | blockEnd
  | flowSequence
  | flowMapping
  | flowSequenceEnd
  | flowMappingEnd
  | blockEntry
  | flowEntry
  | key
  | value
  | alias (name : Text)
  | anchor (name : Text)
  | tag (handle : Option Text) (suffix : Text)
  | scalar (isPlain : Bool) (text : Text)
  /-- The text cannot be read further. -/
  | broken (f : Fault)

/-- A token that becomes a key if a colon follows on its line, not too far away. -/
structure Candidate where
  level : Nat
  token : Nat
  isRequired : Bool
  index : Nat
  line : Nat
  column : Nat

/-- How far reading has come. Tokens are kept last first. -/
structure Lexer where
  cursor : Cursor
  tokens : List Token
  indent : Int
  indents : List Int
  flow : Nat
  mayBeKey : Bool
  candidates : List Candidate

namespace Lexer

def start (t : Text) : Lexer := ⟨Cursor.start t, [], -1, [], 0, true, []⟩

def inFlow (l : Lexer) : Bool := l.flow != 0

def push (l : Lexer) (t : Token) : Lexer := { l with tokens := t :: l.tokens }

/-- Puts a token before the one that was the `n`-th to be read. -/
def insert (l : Lexer) (n : Nat) (t : Token) : Lexer :=
  let later := l.tokens.length - n
  { l with tokens := l.tokens.take later ++ t :: l.tokens.drop later }

def skip (l : Lexer) (n : Nat) : Lexer := { l with cursor := l.cursor.skip n }

/-- The greatest distance from the start of a key to its colon. -/
def keyDistance : Nat := 1024

def isStale (l : Lexer) (k : Candidate) : Bool :=
  k.line != l.cursor.line || keyDistance < l.cursor.index - k.index

def dropStale (l : Lexer) : Except Fault Lexer :=
  if l.candidates.any fun k => l.isStale k && k.isRequired then .error .malformed
  else .ok { l with candidates := l.candidates.filter (! l.isStale ·) }

/-- Forgets the candidate on this level, which may not be one that has to become a key. -/
def dropCandidate (l : Lexer) : Except Fault Lexer :=
  if l.candidates.any fun k => k.level == l.flow && k.isRequired then .error .malformed
  else .ok { l with candidates := l.candidates.filter (·.level != l.flow) }

def addCandidate (l : Lexer) : Except Fault Lexer :=
  if !l.mayBeKey then .ok l
  else do
    let l ← l.dropCandidate
    let c := l.cursor
    let isRequired := !l.inFlow && l.indent == c.column
    return { l with candidates :=
      ⟨l.flow, l.tokens.length, isRequired, c.index, c.line, c.column⟩ :: l.candidates }

/-- Ends the blocks that are indented deeper than `column`. -/
def unwind (column : Int) : Nat → Lexer → Lexer
  | 0, l => l
  | fuel + 1, l =>
    if l.inFlow || l.indent ≤ column then l
    else unwind column fuel
      { l.push .blockEnd with indent := l.indents.headD (-1), indents := l.indents.tail }

def unwindTo (l : Lexer) (column : Int) : Lexer := unwind column (l.indents.length + 1) l

def deepen (l : Lexer) (column : Int) : Bool × Lexer :=
  if l.indent < column then
    (true, { l with indent := column, indents := l.indent :: l.indents })
  else (false, l)

def skipGap : Nat → Lexer → Lexer
  | 0, l => l
  | fuel + 1, l =>
    let c := l.cursor.skipComment
    if isBreak c.peek then
      skipGap fuel { l with cursor := c.lineBreak.2, mayBeKey := l.mayBeKey || !l.inFlow }
    else { l with cursor := c }

def isNameChar (c : Char) : Bool := c.isAlphanum || c == '-' || c == '_'

def uriSigns : List Char :=
  ['-', ';', '/', '?', ':', '@', '&', '=', '+', '$', ',', '_', '.', '!', '~', '*', '\'', '(', ')',
    '[', ']', '%']

def isUriChar (c : Char) : Bool := c.isAlphanum || c ∈ uriSigns

def uriBytes : Nat → List UInt8 → Cursor → Except Fault (List UInt8 × Cursor)
  | 0, _, _ => .error .malformed
  | fuel + 1, found, c =>
    if c.peek == '%' then
      match hexValue? (c.peekAt 1), hexValue? (c.peekAt 2) with
      | some a, some b => uriBytes fuel (found ++ [UInt8.ofNat (16 * a + b)]) (c.skip 3)
      | _, _ => .error .malformed
    else .ok (found, c)

def uriFrom : Nat → Text → Cursor → Except Fault (Text × Cursor)
  | 0, _, _ => .error .malformed
  | fuel + 1, found, c =>
    if c.peek == '%' then do
      let (bytes, c) ← uriBytes (c.rest.length + 1) [] c
      let s := Utf8.decode bytes
      if s.isBroken then .error .malformed else uriFrom fuel (found ++ s.text) c
    else if isUriChar c.peek then uriFrom fuel (found ++ [c.peek]) c.next
    else if found.isEmpty then .error .malformed
    else .ok (found, c)

def uri (c : Cursor) : Except Fault (Text × Cursor) := uriFrom (c.rest.length + 1) [] c

def handle (c : Cursor) : Except Fault (Text × Cursor) :=
  if c.peek != '!' then .error .malformed
  else if c.peekAt 1 == ' ' then .ok (['!'], c.next)
  else
    let name := (c.rest.drop 1).takeWhile isNameChar
    if c.peekAt (name.length + 1) != '!' then .error .malformed
    else .ok ('!' :: name ++ ['!'], c.skip (name.length + 2))

def number (c : Cursor) : Except Fault (Nat × Cursor) :=
  let (digits, c) := c.span Char.isDigit
  if digits.isEmpty then .error .malformed
  else if digitLimit < digits.length then .error .badNumber
  else .ok (digits.foldl (fun n d => 10 * n + (d.toNat - '0'.toNat)) 0, c)

def directiveAt (c : Cursor) : Except Fault (Directive × Cursor) := do
  let (name, c) := c.next.span isNameChar
  if name.isEmpty || !endsWord c.peek then throw .malformed
  if name == "YAML" then
    let (major, c) ← number (c.skipWhile (· == ' '))
    if c.peek != '.' then throw .malformed
    let (minor, c) ← number c.next
    if !endsWord c.peek then throw .malformed
    return (.version major minor, ← c.finishLine)
  else if name == "TAG" then
    let (h, c) ← handle (c.skipWhile (· == ' '))
    if c.peek != ' ' then throw .malformed
    let (begin, c) ← uri (c.skipWhile (· == ' '))
    if !endsWord c.peek then throw .malformed
    return (.tag h begin, ← c.finishLine)
  else return (.unknown, ← (c.skipWhile (! endsLine ·)).finishLine)

/-- Whether the tag at the front has a second exclamation mark before the next blank. -/
def hasHandle (c : Cursor) : Bool :=
  '!' ∈ (c.rest.drop 1).takeWhile (! endsWord ·)

def tagAt (c : Cursor) : Except Fault (Token × Cursor) := do
  let (t, c) ← do
    if c.peekAt 1 == '<' then
      let (suffix, c) ← uri (c.skip 2)
      if c.peek != '>' then throw Fault.malformed
      pure (Token.tag none suffix, c.next)
    else if endsToken (c.peekAt 1) then pure (Token.tag none ['!'], c.next)
    else if hasHandle c then
      let (h, c) ← handle c
      let (suffix, c) ← uri c
      pure (Token.tag (some h) suffix, c)
    else
      let (suffix, c) ← uri c.next
      pure (Token.tag (some ['!']) suffix, c)
  if endsWord c.peek then return (t, c) else throw .malformed

def nameAt (c : Cursor) : Except Fault (Text × Cursor) :=
  let (name, c) := c.next.span isNameChar
  if name.isEmpty then .error .malformed
  else if endsToken c.peek || c.peek ∈ ['?', ':', ',', ']', '\x7d', '%', '@', '\x60'] then
    .ok (name, c)
  else .error .malformed

def endDocument (l : Lexer) (t : Token) (n : Nat) : Except Fault Lexer := do
  let l ← (l.unwindTo (-1)).dropCandidate
  return ({ l with mayBeKey := false }.push t).skip n

def readDirective (l : Lexer) : Except Fault Lexer := do
  let l ← (l.unwindTo (-1)).dropCandidate
  let (d, c) ← directiveAt l.cursor
  return { l with mayBeKey := false, cursor := c }.push (.directive d)

def openFlow (l : Lexer) (t : Token) : Except Fault Lexer := do
  let l ← l.addCandidate
  return ({ l with flow := l.flow + 1, mayBeKey := true }.push t).skip 1

def closeFlow (l : Lexer) (t : Token) : Except Fault Lexer := do
  let l ← l.dropCandidate
  if l.flow == 0 then throw .malformed
  return ({ l with flow := l.flow - 1, mayBeKey := false }.push t).skip 1

def readFlowEntry (l : Lexer) : Except Fault Lexer := do
  let l ← { l with mayBeKey := true }.dropCandidate
  return (l.push .flowEntry).skip 1

/-- Outside flow collections a mark opens a block of its kind where the column is deeper. -/
def openBlock (l : Lexer) (t : Token) : Except Fault Lexer :=
  if l.inFlow then .ok l
  else if !l.mayBeKey then .error .malformed
  else
    let (isNew, l) := l.deepen l.cursor.column
    .ok (if isNew then l.push t else l)

def readBlockEntry (l : Lexer) : Except Fault Lexer := do
  let l ← l.openBlock .blockSequence
  let l ← { l with mayBeKey := true }.dropCandidate
  return (l.push .blockEntry).skip 1

def readKey (l : Lexer) : Except Fault Lexer := do
  let l ← l.openBlock .blockMapping
  let l ← { l with mayBeKey := !l.inFlow }.dropCandidate
  return (l.push .key).skip 1

/-- A colon makes a key of the candidate on its level, or stands after an empty one. -/
def readValue (l : Lexer) : Except Fault Lexer := do
  match l.candidates.find? (·.level == l.flow) with
  | some k =>
    let l := { l with candidates := l.candidates.filter (·.level != l.flow) }
    let l := l.insert k.token .key
    let (isNew, l) := if l.inFlow then (false, l) else l.deepen k.column
    let l := if isNew then l.insert k.token .blockMapping else l
    return ({ l with mayBeKey := false }.push .value).skip 1
  | none =>
    let l ← l.openBlock .blockMapping
    let l ← { l with mayBeKey := !l.inFlow }.dropCandidate
    return (l.push .value).skip 1

def readNamed (l : Lexer) (token : Text → Token) : Except Fault Lexer := do
  let l ← l.addCandidate
  let (name, c) ← nameAt l.cursor
  return { l with mayBeKey := false, cursor := c }.push (token name)

def readTag (l : Lexer) : Except Fault Lexer := do
  let l ← l.addCandidate
  let (t, c) ← tagAt l.cursor
  return { l with mayBeKey := false, cursor := c }.push t

def readBlock (l : Lexer) : Except Fault Lexer := do
  let l ← { l with mayBeKey := true }.dropCandidate
  let (t, c) ← block l.indent l.cursor
  return { l with cursor := c }.push (.scalar false t)

def readQuoted (l : Lexer) : Except Fault Lexer := do
  let l ← l.addCandidate
  let (t, c) ← quoted l.cursor
  return { l with mayBeKey := false, cursor := c }.push (.scalar false t)

def readPlain (l : Lexer) : Except Fault Lexer := do
  let l ← l.addCandidate
  let (t, mayBeKey, c) := plain l.inFlow (l.indent + 1) false l.cursor
  return { l with mayBeKey, cursor := c }.push (.scalar true t)

def indicators : List Char :=
  ['-', '?', ':', ',', '[', ']', '\x7b', '\x7d', '#', '&', '*', '!', '|', '>', '\'', '"', '%', '@',
    '\x60']

/-- A mark that a word follows directly may begin a plain scalar all the same. -/
def beginsPlain (l : Lexer) : Bool :=
  let x := l.cursor.peek
  (!endsToken x && x ∉ indicators) ||
    (!endsToken (l.cursor.peekAt 1) && (x == '-' || (!l.inFlow && (x == '?' || x == ':'))))

def read (l : Lexer) : Except Fault Lexer :=
  let c := l.cursor
  let x := c.peek
  let isAlone := endsToken (c.peekAt 1)
  if x == '%' && c.column == 0 then l.readDirective
  else if x == '-' && c.column == 0 && c.atDocumentMark then l.endDocument .documentStart 3
  else if x == '.' && c.column == 0 && c.atDocumentMark then l.endDocument .documentEnd 3
  else if x == '[' then l.openFlow .flowSequence
  else if x == '\x7b' then l.openFlow .flowMapping
  else if x == ']' then l.closeFlow .flowSequenceEnd
  else if x == '\x7d' then l.closeFlow .flowMappingEnd
  else if x == ',' then l.readFlowEntry
  else if x == '-' && isAlone then l.readBlockEntry
  else if x == '?' && (l.inFlow || isAlone) then l.readKey
  else if x == ':' && (l.inFlow || isAlone) then l.readValue
  else if x == '*' then l.readNamed .alias
  else if x == '&' then l.readNamed .anchor
  else if x == '!' then l.readTag
  else if (x == '|' || x == '>') && !l.inFlow then l.readBlock
  else if x == '\'' || x == '"' then l.readQuoted
  else if l.beginsPlain then l.readPlain
  else .error .malformed

/-- The end of the text ends every block; what cannot be read is the last token. -/
def run : Nat → Lexer → List Token
  | 0, l => (Token.broken .malformed :: l.tokens).reverse
  | fuel + 1, l =>
    let l := l.skipGap (l.cursor.rest.length + 1)
    match l.dropStale with
    | .error f => (Token.broken f :: l.tokens).reverse
    | .ok l =>
      let l := l.unwindTo l.cursor.column
      if l.cursor.rest.isEmpty then
        match (l.unwindTo (-1)).dropCandidate with
        | .ok l => l.tokens.reverse
        | .error f => (Token.broken f :: l.tokens).reverse
      else
        match l.read with
        | .ok l => run fuel l
        | .error f => (Token.broken f :: l.tokens).reverse

end Lexer

def tokens (t : Text) : List Token :=
  let l := Lexer.start t
  let l := if t.head? == some '\ufeff' then l.skip 1 else l
  l.run (t.length + 1)

end Parametric.Yaml
