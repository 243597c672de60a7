import Parametric.Parameter
import Parametric.Raised

/-! # Directed graphs of identities, and what is asked of a library of algorithms on them -/
namespace Parametric

/-- Nodes in the order in which they came, each once, and edges between them. -/
structure DirectedGraph where
  nodes : List Ident
  edges : List (Ident × Ident)
  nodes_nodup : nodes.Nodup
  mem_nodes : ∀ e ∈ edges, e.1 ∈ nodes ∧ e.2 ∈ nodes

namespace DirectedGraph

def empty : DirectedGraph := ⟨[], [], List.nodup_nil, by simp⟩

variable (g : DirectedGraph)

def withNode (a : Ident) : DirectedGraph where
  nodes := if a ∈ g.nodes then g.nodes else g.nodes ++ [a]
  edges := g.edges
  nodes_nodup := by
    have h := g.nodes_nodup
    split
    · exact h
    · rename_i ha
      refine List.nodup_append.2 ⟨h, by simp, fun b hb c hc => ?_⟩
      rintro rfl
      exact ha (List.mem_singleton.1 hc ▸ hb)
  mem_nodes e he := by
    have h := g.mem_nodes e he
    split <;> simp [h]

@[simp] theorem mem_nodes_withNode {a b : Ident} :
    b ∈ (g.withNode a).nodes ↔ b ∈ g.nodes ∨ b = a := by
  unfold withNode
  dsimp only
  split
  · rename_i ha
    exact ⟨.inl, fun h => h.elim id fun hb => hb ▸ ha⟩
  · simp

/-- An edge brings its ends along. -/
def withEdge (e : Ident × Ident) : DirectedGraph where
  nodes := ((g.withNode e.1).withNode e.2).nodes
  edges := if e ∈ g.edges then g.edges else g.edges ++ [e]
  nodes_nodup := nodes_nodup _
  mem_nodes f hf := by
    have hf : f ∈ g.edges ∨ f = e := by
      split at hf
      · exact .inl hf
      · simpa using hf
    rcases hf with hf | rfl
    · have h := g.mem_nodes f hf
      simp [h]
    · simp

@[simp] theorem mem_nodes_withEdge {e : Ident × Ident} {b : Ident} :
    b ∈ (g.withEdge e).nodes ↔ (b ∈ g.nodes ∨ b = e.1) ∨ b = e.2 := by
  simp [withEdge]

@[simp] theorem mem_edges_withEdge {e f : Ident × Ident} :
    f ∈ (g.withEdge e).edges ↔ f ∈ g.edges ∨ f = e := by
  unfold withEdge
  dsimp only
  split
  · rename_i he
    exact ⟨.inl, fun h => h.elim id fun hf => hf ▸ he⟩
  · simp

/-- Any identity can be a node, but not that there is none. -/
def absentNode : Raised where
  kind := "ValueError"
  text := "None cannot be a node"

def addNode (a : Ident) : Except Raised DirectedGraph :=
  if a = .absent then .error absentNode else .ok (g.withNode a)

def addEdge (e : Ident × Ident) : Except Raised DirectedGraph :=
  if e.1 = .absent ∨ e.2 = .absent then .error absentNode else .ok (g.withEdge e)

def reverse : DirectedGraph where
  nodes := g.nodes
  edges := g.edges.map fun e => (e.2, e.1)
  nodes_nodup := g.nodes_nodup
  mem_nodes e he := by
    obtain ⟨f, hf, rfl⟩ := List.mem_map.1 he
    exact (g.mem_nodes f hf).symm

def Joins (a b : Ident) : Prop := (a, b) ∈ g.edges

variable {g} in
theorem Joins.mem {a b : Ident} (h : g.Joins a b) : a ∈ g.nodes ∧ b ∈ g.nodes := g.mem_nodes _ h

@[simp] theorem joins_reverse {a b : Ident} : g.reverse.Joins a b ↔ g.Joins b a := by
  rw [Joins, reverse, List.mem_map]
  constructor
  · rintro ⟨e, he, heq⟩
    obtain ⟨rfl, rfl⟩ := Prod.mk.inj heq
    exact he
  · exact fun h => ⟨_, h, rfl⟩

/-- What one edge leads to. -/
def next (a : Ident) : List Ident := g.nodes.filter fun b => (a, b) ∈ g.edges

theorem mem_next_iff {a b : Ident} : b ∈ g.next a ↔ g.Joins a b := by
  simp only [next, List.mem_filter, decide_eq_true_eq]
  exact and_iff_right_of_imp fun h => (g.mem_nodes _ h).2

theorem next_sublist (a : Ident) : (g.next a).Sublist g.nodes := List.filter_sublist

/-- Algorithms on graphs: all elementary cycles, the nodes in an order that no edge goes against, if
there is one, and the nodes that lead to a node or that it leads to. -/
structure Library where
  cycles : DirectedGraph → List (List Ident)
  sorted? : DirectedGraph → Option (List Ident)
  ancestors : DirectedGraph → Ident → List Ident
  descendants : DirectedGraph → Ident → List Ident

end DirectedGraph

end Parametric
