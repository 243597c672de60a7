import Parametric.Yaml.Tag
import Parametric.Yaml.Token

/-! # YAML documents as trees of tagged nodes, aliases replaced by what they stand for -/
namespace Parametric.Yaml

inductive Node
  | scalar (tag : Text) (text : Text)
  | sequence (tag : Text) (items : List Node)
  | mapping (tag : Text) (entries : List (Node × Node))

instance : Inhabited Node := ⟨.scalar [] []⟩

abbrev Handles := List (Text × Text)

def standardHandles : Handles := [("!", "!"), ("!!", standardTag [])]

/-- Tokens still to be read and the nodes that have got names so far. -/
structure Reading where
  tokens : List Token
  anchors : List (Text × Node)

structure Properties where
  anchor : Option Text
  tag : Option Text

namespace Properties

def isEmpty (p : Properties) : Bool := p.anchor.isNone && p.tag.isNone

/-- An exclamation mark alone leaves the tag open. -/
def explicit? (p : Properties) : Option Text := p.tag.filter (· != "!")

/-- A scalar that is not plain is a text unless its tag is left open by an exclamation mark. -/
def scalarTag (p : Properties) (isPlain : Bool) (t : Text) : Text :=
  match p.tag with
  | some tag => if tag == "!" then standardTag (Scalar.tagName t) else tag
  | none => standardTag (if isPlain then Scalar.tagName t else "str")

def sequenceTag (p : Properties) : Text := p.explicit?.getD (standardTag "seq")

def mappingTag (p : Properties) : Text := p.explicit?.getD (standardTag "map")

end Properties

def emptyNode : Node := .scalar (standardTag "null") []

namespace Reading

def next? (r : Reading) : Except Fault (Option (Token × Reading)) :=
  match r.tokens with
  | [] => .ok none
  | .broken f :: _ => .error f
  | t :: rest => .ok (some (t, { r with tokens := rest }))

def resolveTag (handles : Handles) (handle : Option Text) (suffix : Text) : Except Fault Text :=
  match handle with
  | none => .ok suffix
  | some h =>
    match handles.find? fun p => p.1 == h with
    | some (_, begin) => .ok (begin ++ suffix)
    | none => .error .malformed

def properties (handles : Handles) : Nat → Properties → Reading → Except Fault (Properties × Reading)
  | 0, p, r => .ok (p, r)
  | fuel + 1, p, r => do
    match ← r.next? with
    | some (.anchor a, rest) =>
      if p.anchor.isNone then properties handles fuel { p with anchor := some a } rest
      else return (p, r)
    | some (.tag h suffix, rest) =>
      if p.tag.isNone then
        properties handles fuel { p with tag := some (← resolveTag handles h suffix) } rest
      else return (p, r)
    | _ => return (p, r)

/-- No two nodes of a document have one name. -/
def checkAnchor (r : Reading) (p : Properties) : Except Fault Unit :=
  match p.anchor with
  | some a => if r.anchors.any (·.1 == a) then .error .malformed else .ok ()
  | none => .ok ()

def setAnchor (r : Reading) (p : Properties) (n : Node) : Reading :=
  match p.anchor with
  | some a => { r with anchors := (a, n) :: r.anchors }
  | none => r

/-- Where a node stands, which decides what it may be. -/
inductive Position
  | flow
  | block
  /-- In a block mapping a sequence need not be indented. -/
  | entry

def endsItem : Token → Bool
  | .blockEntry | .blockEnd => true
  | _ => false

def endsUnindented : Token → Bool
  | .blockEntry | .key | .value | .blockEnd => true
  | _ => false

def endsPart : Token → Bool
  | .key | .value | .blockEnd => true
  | _ => false

def endsFlowKey : Token → Bool
  | .value | .flowEntry | .flowMappingEnd | .flowSequenceEnd => true
  | _ => false

def endsFlowValue : Token → Bool
  | .flowEntry | .flowMappingEnd | .flowSequenceEnd => true
  | _ => false

/-- An empty node where a token of `ends` stands, else what `read` makes of the tokens. -/
def part (ends : Token → Bool) (read : Reading → Except Fault (Node × Reading)) (r : Reading) :
    Except Fault (Node × Reading) := do
  match ← r.next? with
  | some (t, _) => if ends t then return (emptyNode, r) else read r
  | none => throw .malformed

/-- The value after a colon; without one it is empty. -/
def valuePart (ends : Token → Bool) (read : Reading → Except Fault (Node × Reading))
    (r : Reading) : Except Fault (Node × Reading) := do
  match ← r.next? with
  | some (.value, rest) => part ends read rest
  | _ => return (emptyNode, r)

/-- Properties alone make an empty scalar. -/
def bare (p : Properties) (r : Reading) : Except Fault (Node × Reading) :=
  if p.isEmpty then .error .malformed
  else
    let n := Node.scalar (p.tag.elim (standardTag "null") fun _ => p.scalarTag true []) []
    .ok (n, r.setAnchor p n)

def named {α : Type} (p : Properties) (make : α → Node) (found : Except Fault (α × Reading)) :
    Except Fault (Node × Reading) :=
  found.map fun (x, r) => (make x, r.setAnchor p (make x))

variable (handles : Handles)

mutual

def node : Nat → Position → Reading → Except Fault (Node × Reading)
  | 0, _, _ => .error .malformed
  | fuel + 1, position, r => do
    match ← r.next? with
    | some (.alias a, rest) =>
      match r.anchors.find? (·.1 == a) with
      | some (_, n) => return (n, rest)
      | none => throw .malformed
    | _ =>
      let (p, r) ← properties handles 2 ⟨none, none⟩ r
      r.checkAnchor p
      let items := Node.sequence p.sequenceTag
      let entries := Node.mapping p.mappingTag
      match ← r.next?, position with
      | some (.blockEntry, _), .entry =>
        named p items (unindented fuel [] (r.setAnchor p (items [])))
      | some (.scalar isPlain t, rest), _ =>
        let n := Node.scalar (p.scalarTag isPlain t) t
        return (n, rest.setAnchor p n)
      | some (.flowSequence, rest), _ =>
        named p items (flowItems fuel true [] (rest.setAnchor p (items [])))
      | some (.flowMapping, rest), _ =>
        named p entries (flowEntries fuel true [] (rest.setAnchor p (entries [])))
      | some (.blockSequence, rest), .block | some (.blockSequence, rest), .entry =>
        named p items (blockItems fuel [] (rest.setAnchor p (items [])))
      | some (.blockMapping, rest), .block | some (.blockMapping, rest), .entry =>
        named p entries (blockEntries fuel [] (rest.setAnchor p (entries [])))
      | _, _ => bare p r

def blockItems : Nat → List Node → Reading → Except Fault (List Node × Reading)
  | 0, _, _ => .error .malformed
  | fuel + 1, found, r => do
    match ← r.next? with
    | some (.blockEntry, rest) =>
      let (n, rest) ← part endsItem (node fuel .block) rest
      blockItems fuel (found ++ [n]) rest
    | some (.blockEnd, rest) => return (found, rest)
    | _ => throw .malformed

def unindented : Nat → List Node → Reading → Except Fault (List Node × Reading)
  | 0, _, _ => .error .malformed
  | fuel + 1, found, r => do
    match ← r.next? with
    | some (.blockEntry, rest) =>
      let (n, rest) ← part endsUnindented (node fuel .block) rest
      unindented fuel (found ++ [n]) rest
    | _ => return (found, r)

def blockEntries : Nat → List (Node × Node) → Reading →
    Except Fault (List (Node × Node) × Reading)
  | 0, _, _ => .error .malformed
  | fuel + 1, found, r => do
    match ← r.next? with
    | some (.key, rest) =>
      let (k, rest) ← part endsPart (node fuel .entry) rest
      let (v, rest) ← valuePart endsPart (node fuel .entry) rest
      blockEntries fuel (found ++ [(k, v)]) rest
    | some (.blockEnd, rest) => return (found, rest)
    | _ => throw .malformed

/-- A key inside a flow sequence begins a mapping of one entry. -/
def flowItems : Nat → Bool → List Node → Reading → Except Fault (List Node × Reading)
  | 0, _, _, _ => .error .malformed
  | fuel + 1, isFirst, found, r => do
    match ← r.next?, isFirst with
    | some (.flowSequenceEnd, rest), _ => return (found, rest)
    | some (.flowEntry, rest), false =>
      match ← rest.next? with
      | some (.flowSequenceEnd, rest) => return (found, rest)
      | _ => flowItems fuel true found rest
    | some (.key, rest), true =>
      let (k, rest) ← part endsFlowKey (node fuel .flow) rest
      let (v, rest) ← valuePart endsFlowValue (node fuel .flow) rest
      flowItems fuel false (found ++ [.mapping (standardTag "map") [(k, v)]]) rest
    | _, true =>
      let (n, rest) ← node fuel .flow r
      flowItems fuel false (found ++ [n]) rest
    | _, false => throw .malformed

def flowEntries : Nat → Bool → List (Node × Node) → Reading →
    Except Fault (List (Node × Node) × Reading)
  | 0, _, _, _ => .error .malformed
  | fuel + 1, isFirst, found, r => do
    match ← r.next?, isFirst with
    | some (.flowMappingEnd, rest), _ => return (found, rest)
    | some (.flowEntry, rest), false =>
      match ← rest.next? with
      | some (.flowMappingEnd, rest) => return (found, rest)
      | _ => flowEntries fuel true found rest
    | some (.key, rest), true =>
      let (k, rest) ← part endsFlowKey (node fuel .flow) rest
      let (v, rest) ← valuePart endsFlowValue (node fuel .flow) rest
      flowEntries fuel false (found ++ [(k, v)]) rest
    | _, true =>
      let (k, rest) ← node fuel .flow r
      flowEntries fuel false (found ++ [(k, emptyNode)]) rest
    | _, false => throw .malformed

end

def directives : Nat → Bool → Handles → Reading → Except Fault (Handles × Reading)
  | 0, _, handles, r => .ok (handles, r)
  | fuel + 1, hasVersion, handles, r => do
    match ← r.next? with
    | some (.directive (.version major _), rest) =>
      if hasVersion || major != 1 then throw .malformed
      directives fuel true handles rest
    | some (.directive (.tag h begin), rest) =>
      if handles.any (·.1 == h) then throw .malformed
      directives fuel hasVersion (handles ++ [(h, begin)]) rest
    | some (.directive .unknown, rest) => directives fuel hasVersion handles rest
    | _ => return (handles, r)

def skipDocumentEnds : Nat → Reading → Except Fault Reading
  | 0, r => .ok r
  | fuel + 1, r => do
    match ← r.next? with
    | some (.documentEnd, rest) => skipDocumentEnds fuel rest
    | _ => return r

/-- Only ends of documents may follow the one document. -/
def finish (r : Reading) : Except Fault Unit := do
  let r ← skipDocumentEnds r.tokens.length r
  match ← r.next? with
  | some _ => throw .malformed
  | none => return ()

def content (r : Reading) : Except Fault (Node × Reading) := do
  match ← r.next? with
  | none => return (emptyNode, r)
  | some (.directive _, _) | some (.documentStart, _) | some (.documentEnd, _) =>
    return (emptyNode, r)
  | _ => node handles (2 * r.tokens.length + 4) .block r

end Reading

def Node.ofTokens? (ts : List Token) : Except Fault (Option Node) := do
  let r : Reading := ⟨ts, []⟩
  match ← r.next? with
  | none => return none
  | some (.directive _, _) | some (.documentStart, _) =>
    let (handles, r) ← Reading.directives ts.length false [] r
    match ← r.next? with
    | some (.documentStart, r) =>
      let missing := standardHandles.filter fun h => !handles.any (·.1 == h.1)
      let (n, r) ← Reading.content (handles ++ missing) r
      r.finish
      return some n
    | _ => throw .malformed
  | _ =>
    let (n, r) ← Reading.node standardHandles (2 * ts.length + 4) .block r
    r.finish
    return some n

end Parametric.Yaml
