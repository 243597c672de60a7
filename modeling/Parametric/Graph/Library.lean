import Parametric.Graph.Directed

/-! # A library of graph algorithms: spreading from a node, cycles by search, generations -/
namespace Parametric.DirectedGraph

/-- Adds what `next` leads to from the newest members until nothing is new. -/
def spread (next : Ident → List Ident) : Nat → List Ident → List Ident → List Ident
  | 0, _, seen => seen
  | fuel + 1, newest, seen =>
    match (newest.flatMap next).eraseDups.filter (· ∉ seen) with
    | [] => seen
    | fresh => spread next fuel fresh (seen ++ fresh)

variable (g : DirectedGraph)

def reach (start : Ident) : List Ident :=
  (spread g.next (g.nodes.length + 1) [start] []).filter (· ≠ start)

/-- The cycles through `start` that go on from `path`, innermost node first, over `allowed`. -/
def extend (start : Ident) (allowed : List Ident) : Nat → List Ident → Ident → List (List Ident)
  | 0, _, _ => []
  | fuel + 1, path, current =>
    let targets := g.next current
    let closing := if start ∈ targets then [(current :: path).reverse] else []
    closing ++ (allowed.filter fun t => t ∈ targets && t ∉ current :: path).flatMap
      (extend start allowed fuel (current :: path))

def cyclesThrough (ids : List Ident) : List (List Ident) :=
  match ids with
  | [] => []
  | start :: later =>
    let inside (id : Ident) := (g.reverse.next id).filter (· ∈ later)
    let back := spread inside (g.nodes.length + 1) [start] []
    g.extend start (later.filter (· ∈ back)) (g.nodes.length + 1) [] start

def cyclesAmong : List Ident → List (List Ident)
  | [] => []
  | start :: later => g.cyclesThrough (start :: later) ++ cyclesAmong later

/-- What follows a generation: for each of its members those that it leads to and that have all
before them placed by then. -/
def nextGeneration (placed : List Ident) : List Ident → List Ident
  | [] => []
  | id :: rest =>
    let placed := id :: placed
    (g.next id).filter (fun a => (g.reverse.next a).all (· ∈ placed)) ++ nextGeneration placed rest

def generations : Nat → List Ident → List Ident → List Ident
  | 0, _, _ => []
  | fuel + 1, placed, generation =>
    match generation with
    | [] => []
    | _ => generation ++
        generations fuel (generation.reverse ++ placed) (g.nextGeneration placed generation)

/-- Nodes that no edge leads to come first, then what becomes ready, generation by generation. -/
def sorted : List Ident :=
  g.generations (g.nodes.length + 1) [] (g.nodes.filter fun a => (g.reverse.next a).isEmpty)

/-- One library that a program can have; its lists begin with the first node there is. -/
def Library.standard : Library where
  cycles g := g.cyclesAmong g.nodes
  sorted? g := if g.sorted.length = g.nodes.length then some g.sorted else none
  ancestors g := g.reverse.reach
  descendants g := g.reach

end Parametric.DirectedGraph
