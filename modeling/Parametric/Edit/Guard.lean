import Parametric.Edit.Rejection
import Parametric.Snapshot
import Parametric.Unit.Registry

/-! # The guard: local checks of an edit, and then one commit by the host -/
namespace Parametric

/-- Why an edit ends without an answer. -/
inductive Failure
  | raised (e : Raised)
  | namelessPath

/-- Takes a formula for a parameter into a store, or refuses and leaves the store as it is. -/
abbrev Host (σ : Type) := σ → Parameter → Option Text → Except Refusal σ

inductive Outcome
  | done
  | rejected (r : Rejection)
  | failed (f : Failure)

namespace Outcome

def isDone : Outcome → Bool
  | done => true
  | _ => false

end Outcome

/-- What came of an edit: its outcome, the store after it, the host's calls and the journal. -/
structure Attempt (σ : Type) where
  outcome : Outcome
  store : σ
  calls : List (Parameter × Option Text)
  entries : List Entry

inductive Edit
  | set (target : Parameter) (formula : Option Text)
  | copy (target source : Parameter)
  | clear (target : Parameter)
  | trust (target : Parameter) (formula : Option Text)

/-- Which dialect formulas are in, whether the roots of a search share what they visited, and which
units there are. -/
structure Guard where
  dialect : Dialect
  share : Bool
  registry : Registry

namespace Guard

def channel : Text := "formula_guard.mutation.guard"

inductive Review
  | failed (f : Failure)
  | rejected (r : Rejection)
  | passed (suspicious : List Text)

variable (g : Guard)

/-- The tokens that may be units. The first one about which the registry has no answer ends it. -/
def suffixes : List Text → Except Raised (List Text)
  | [] => .ok []
  | t :: rest => do
    let isSuffix ← g.registry.isSuffix t
    let more ← suffixes rest
    return if isSuffix then t :: more else more

/-- Only a formula with a token like a unit is read as a value. -/
def isValue (formula : Text) (suffixes : List Text) : Except Raised Bool :=
  if suffixes.isEmpty then .ok false else g.registry.isValue formula

def reviewUnknown (target : Parameter) (formula : Text) (invalid : List Text) : Review :=
  let found := do
    let likely ← g.suffixes invalid
    return (likely, ← g.isValue formula likely)
  match found with
  | .error e => .failed (.raised e)
  | .ok (likely, value) =>
    .rejected (.unknownReference target.name invalid likely value (some formula))

def instanceReferences (target : Parameter) (formula : Text) (ps : List Parameter) :
    List Parameter :=
  if target.isInstance then []
  else (Reference.of g.dialect ps (some formula)).filter (·.isInstance)

def verdict (target : Parameter) (formula : Text) (ps : List Parameter) : Cycle.Verdict :=
  Cycle.detect g.dialect g.share target (some formula) ps

/-- Unknown names, references to instance parameters and cycles are looked for in this order. -/
def review (target : Parameter) (formula : Text) (ps : List Parameter) : Review :=
  match Reference.invalid g.dialect ps (some formula) with
  | t :: ts => g.reviewUnknown target formula (t :: ts)
  | [] =>
    match g.instanceReferences target formula ps with
    | p :: rest => .rejected (.instanceReference target.name ((p :: rest).map (·.name)))
    | [] =>
      let v := g.verdict target formula ps
      if v.wouldCycle then
        if v.isShowable then .rejected (.cycle target.name v) else .failed .namelessPath
      else .passed (Reference.suspicious g.dialect ps (some formula))

def rejectedEntry (r : Rejection) : Entry :=
  ⟨Journal.info, channel, "Rejected formula: " ++ r.shown⟩

def reviewEntries (target : Parameter) (formula : Text) (ps : List Parameter) : List Entry :=
  let unknown := Formula.invalidEntries (some formula) (Reference.invalid g.dialect ps (some formula))
  match g.review target formula ps with
  | .failed _ => unknown
  | .rejected r =>
    let cycle := match r with
      | .cycle _ v => Cycle.entries target v
      | _ => []
    unknown ++ cycle ++ [rejectedEntry r]
  | .passed _ => []

variable {σ : Type} (host : Host σ) (s : σ)

def stop (outcome : Outcome) (entries : List Entry) : Attempt σ := ⟨outcome, s, [], entries⟩

def doneEntry (target : Parameter) : Option Text → Entry
  | none => ⟨Journal.info, channel, "Cleared formula of '" ++ shownName target.name ++ "'."⟩
  | some f => ⟨Journal.info, channel,
      "Committed formula for '" ++ shownName target.name ++ "': " ++ f⟩

/-- What is noted of a refusal. A text that cannot be had leaves no line. -/
def refusalEntries (target : Parameter) (r : Refusal) : List Entry :=
  match r.text with
  | .ok t => [⟨Journal.warning, channel,
      "Host rejected formula for '" ++ shownName target.name ++ "': " ++ t⟩]
  | .error _ => []

/-- The host's answer is final. A refusal is an outcome like any other, if it can be told. -/
def commit (target : Parameter) (formula : Option Text) (suspicious : List Text) : Attempt σ :=
  match host s target formula with
  | .ok s => ⟨.done, s, [(target, formula)], [doneEntry target formula]⟩
  | .error r =>
    let outcome := match r.shown with
      | .ok message => .rejected (.refused target.name message suspicious)
      | .error e => .failed (.raised e)
    ⟨outcome, s, [(target, formula)], refusalEntries target r⟩

/-- A blank formula breaks none of the checks and goes to the host as a cleared one. -/
def set (target : Parameter) (formula : Option Text) (ps : List Parameter) : Attempt σ :=
  match written? formula with
  | none => commit host s target none []
  | some f =>
    match g.review target f ps with
    | .failed e => stop s (.failed e) (g.reviewEntries target f ps)
    | .rejected r => stop s (.rejected r) (g.reviewEntries target f ps)
    | .passed suspicious => commit host s target (some f) suspicious

def reject (r : Rejection) : Attempt σ := stop s (.rejected r) [rejectedEntry r]

def copy (target source : Parameter) (ps : List Parameter) : Attempt σ :=
  match written? source.formula with
  | none => reject s (.emptySource target.name source.name)
  | some f =>
    if source.dataType.same target.dataType then g.set host s target (some f) ps
    else reject s (.typeMismatch target.name source.name source.dataType target.dataType)

def run (edit : Edit) (ps : List Parameter) : Attempt σ :=
  match edit with
  | .set target formula => g.set host s target formula ps
  | .copy target source => g.copy host s target source ps
  | .clear target => commit host s target none []
  | .trust target formula => commit host s target (written? formula) []

end Guard

def foreignRefusal (p : Parameter) : Refusal :=
  ⟨"ParameterSetError", List.cons_ne_nil _ _, .ok (Snapshot.foreignMessage p)⟩

/-- A store that is one snapshot. With `refusal` the host takes nothing. -/
def Snapshot.host (refusal : Option Refusal) : Host Snapshot := fun s p formula =>
  match refusal with
  | some r => .error r
  | none =>
    match s.withFormula? p formula with
    | some s => .ok s
    | none => .error (foreignRefusal p)

end Parametric
