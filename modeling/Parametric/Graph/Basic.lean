import Parametric.Graph.Directed
import Parametric.Graph.Loop

/-! # The reference graph of all parameters: cycles, order and reachability -/
namespace Parametric

/-- The parameters, and the graph of their identities with an edge for each reference. -/
structure Graph where
  parameters : List Parameter
  directed : DirectedGraph

namespace Graph

def referencePairs (d : Dialect) (ps : List Parameter) : List (Ident × Ident) :=
  ps.flatMap fun p => (dependencies d p ps).map fun q => (p.id, q.id)

/-- All nodes come before the edges. A parameter without an identity is no node. -/
def build (d : Dialect) (ps : List Parameter) : Except Raised Graph := do
  let g ← (ps.map (·.id)).foldlM DirectedGraph.addNode .empty
  let g ← (referencePairs d ps).foldlM DirectedGraph.addEdge g
  return ⟨ps, g⟩

variable (g : Graph) (lib : DirectedGraph.Library)

/-- Of several parameters with one identity the last one stands for it. -/
def parameter? (id : Ident) : Option Parameter := g.parameters.reverse.find? (·.id = id)

def allDependencies (p : Parameter) : List Parameter :=
  if p.id ∈ g.directed.nodes then
    Parameter.select (lib.descendants g.directed p.id) g.parameters
  else []

def allDependents (p : Parameter) : List Parameter :=
  if p.id ∈ g.directed.nodes then
    Parameter.select (lib.ancestors g.directed p.id) g.parameters
  else []

def cycles : List (List (Option Text)) :=
  (lib.cycles g.directed).map fun c => (c.filterMap g.parameter?).map (·.name)

/-- Every parameter after all that its formula references; there is no such order on a cycle. -/
def order? : Option (List Parameter) :=
  (lib.sorted? g.directed.reverse).map (·.filterMap g.parameter?)

def check : Except Loop Unit :=
  match g.cycles lib with
  | c :: _ => .error ⟨c.map shownName⟩
  | [] => .ok ()

/-- The parameters in order. Without an order the check for cycles fails with the reason, and a loop
without names stands for a check that knows none. -/
def order : Except Loop (List Parameter) :=
  match g.order? lib with
  | some ps => .ok ps
  | none =>
    match g.check lib with
    | .error l => .error l
    | .ok () => .error ⟨[]⟩

def buildEntry : Entry :=
  ⟨Journal.debug, "formula_guard.formulas.graph",
    "Built reference graph: " ++ Text.ofNat g.directed.nodes.length ++ " parameters, " ++
      Text.ofNat g.directed.edges.length ++ " references."⟩

def checkEntries : List Entry :=
  match g.cycles lib with
  | [] => []
  | cs => [⟨Journal.warning, "formula_guard.formulas.graph",
      "Snapshot contains " ++ Text.ofNat cs.length ++ " reference cycle(s)."⟩]

end Graph

end Parametric
