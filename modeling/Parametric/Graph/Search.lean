import Parametric.Parameter

/-! # Depth-first search for a path, with a trail of open nodes and a list of visited ones -/
namespace Parametric.Search

/-- A node of the trail and what it references that has not been tried yet. -/
structure Frame where
  node : Parameter
  untried : List Parameter

/-- The innermost frame comes first. -/
structure State where
  trail : List Frame
  visited : List Ident

inductive Progress
  | searching (s : State)
  | ended (path : Option (List Parameter)) (visited : List Ident)

variable (next : Parameter → List Parameter) (goal : Ident)

def nodes (trail : List Frame) : List Parameter := (trail.map (·.node)).reverse

/-- Tries one reference or closes one frame. The goal itself is never marked as visited. -/
def step (s : State) : Progress :=
  match s.trail with
  | [] => .ended none s.visited
  | ⟨_, []⟩ :: trail => .searching ⟨trail, s.visited⟩
  | ⟨node, child :: untried⟩ :: trail =>
    if child.id = goal then .ended (some (nodes s.trail ++ [child])) s.visited
    else if child.id ∈ s.visited then .searching ⟨⟨node, untried⟩ :: trail, s.visited⟩
    else .searching
      ⟨⟨child, next child⟩ :: ⟨node, untried⟩ :: trail, child.id :: s.visited⟩

def run : Nat → State → Option (List Parameter) × List Ident
  | 0, s => (none, s.visited)
  | fuel + 1, s =>
    match step next goal s with
    | .searching s => run fuel s
    | .ended path visited => (path, visited)

/-- Each of `size` parameters and the root is entered once, tries at most `size` references and is
left once. -/
def enough (size : Nat) : Nat := (size + 2) * (size + 2)

def path (size : Nat) (root : Parameter) (visited : List Ident) :
    Option (List Parameter) × List Ident :=
  if root.id = goal then (some [root], visited)
  else if root.id ∈ visited then (none, visited)
  else run next goal (enough size) ⟨[⟨root, next root⟩], root.id :: visited⟩

end Parametric.Search
