import Mathlib.Data.Set.Basic
import Parametric.Graph.Basic
import Parametric.Proofs.GraphLibrary
import Parametric.Proofs.ReferenceRelation

/-! # The graph that is built of the references, and the cycles that a library lists of it -/
namespace Parametric

namespace DirectedGraph

theorem foldlM_addNode_of_mem {ids : List Ident} (h : Ident.absent ∈ ids) (g : DirectedGraph) :
    ids.foldlM addNode g = .error absentNode := by
  induction ids generalizing g with
  | nil => simp at h
  | cons a ids ih =>
    rw [List.foldlM_cons, addNode]
    by_cases ha : a = .absent
    · rw [if_pos ha]
      rfl
    · rw [if_neg ha]
      exact ih ((List.mem_cons.1 h).resolve_left (Ne.symm ha)) _

theorem foldlM_addNode {ids : List Ident} (h : Ident.absent ∉ ids) (g : DirectedGraph) :
    ∃ g', ids.foldlM addNode g = .ok g' ∧ g'.edges = g.edges ∧
      ∀ b, b ∈ g'.nodes ↔ b ∈ g.nodes ∨ b ∈ ids := by
  induction ids generalizing g with
  | nil => exact ⟨g, rfl, rfl, by simp⟩
  | cons a ids ih =>
    obtain ⟨ha, h⟩ : Ident.absent ≠ a ∧ Ident.absent ∉ ids := by simpa using h
    obtain ⟨g', hg', hedges, hnodes⟩ := ih h (g.withNode a)
    rw [List.foldlM_cons, addNode, if_neg (Ne.symm ha)]
    refine ⟨g', hg', hedges, fun b => ?_⟩
    rw [hnodes, mem_nodes_withNode, List.mem_cons, or_assoc]

theorem foldlM_addEdge {es : List (Ident × Ident)} {g : DirectedGraph} (ha : .absent ∉ g.nodes)
    (h : ∀ e ∈ es, e.1 ∈ g.nodes ∧ e.2 ∈ g.nodes) :
    ∃ g', es.foldlM addEdge g = .ok g' ∧ (∀ b, b ∈ g'.nodes ↔ b ∈ g.nodes) ∧
      ∀ e, e ∈ g'.edges ↔ e ∈ g.edges ∨ e ∈ es := by
  induction es generalizing g with
  | nil => exact ⟨g, rfl, by simp, by simp⟩
  | cons e es ih =>
    obtain ⟨he, h⟩ := List.forall_mem_cons.1 h
    have hnodes (b : Ident) : b ∈ (g.withEdge e).nodes ↔ b ∈ g.nodes := by
      rw [mem_nodes_withEdge]
      grind
    have hends : ¬ (e.1 = .absent ∨ e.2 = .absent) := by
      rintro (hnone | hnone)
      · exact ha (hnone ▸ he.1)
      · exact ha (hnone ▸ he.2)
    obtain ⟨g', hg', hnodes', hedges⟩ := ih (g := g.withEdge e) (by rwa [hnodes]) fun f hf => by
      simpa only [hnodes] using h f hf
    rw [List.foldlM_cons, addEdge, if_neg hends]
    refine ⟨g', hg', fun b => (hnodes' b).trans (hnodes b), fun f => ?_⟩
    rw [hedges, mem_edges_withEdge, List.mem_cons, or_assoc]

end DirectedGraph

/-- The elementary cycles of the references. -/
def elementary (d : Dialect) (ps : List Parameter) : Set (Cycle Ident) :=
  {c | IsElementary (References d ps) c}

theorem mem_elementary_iff {d : Dialect} {ps : List Parameter} {c : Cycle Ident} :
    c ∈ elementary d ps ↔ IsElementary (References d ps) c := Iff.rfl

namespace Graph

variable {d : Dialect} {ps : List Parameter} {g : Graph}

theorem mem_referencePairs_iff {a b : Ident} : (a, b) ∈ referencePairs d ps ↔ References d ps a b := by
  simp only [referencePairs, References, List.mem_flatMap, List.mem_map, Prod.mk.injEq]
  constructor
  · rintro ⟨p, hp, q, hq, rfl, rfl⟩
    exact ⟨p, hp, rfl, q, hq, rfl⟩
  · rintro ⟨p, hp, rfl, q, hq, rfl⟩
    exact ⟨p, hp, q, hq, rfl, rfl⟩

/-- The graph has a node for each identity and an edge for each reference. -/
structure IsBuilt (d : Dialect) (ps : List Parameter) (g : Graph) : Prop where
  parameters : g.parameters = ps
  mem_nodes_iff : ∀ a, a ∈ g.directed.nodes ↔ a ∈ ps.map (·.id)
  joins : g.directed.Joins = References d ps

theorem build_of_absent (h : Ident.absent ∈ ps.map (·.id)) :
    build d ps = .error DirectedGraph.absentNode := by
  rw [build, DirectedGraph.foldlM_addNode_of_mem h]
  rfl

theorem exists_build (d : Dialect) (ps : List Parameter) (h : Ident.absent ∉ ps.map (·.id)) :
    ∃ g, build d ps = .ok g ∧ g.IsBuilt d ps := by
  obtain ⟨g, hg, hedges, hnodes⟩ := DirectedGraph.foldlM_addNode h .empty
  have hmem (a : Ident) : a ∈ g.nodes ↔ a ∈ ps.map (·.id) := by
    rw [hnodes]
    simp [DirectedGraph.empty]
  have hends : ∀ e ∈ referencePairs d ps, e.1 ∈ g.nodes ∧ e.2 ∈ g.nodes := by
    rintro ⟨a, b⟩ he
    simpa only [hmem] using (mem_referencePairs_iff.1 he).mem_ids
  obtain ⟨g', hg', hnodes', hedges'⟩ := DirectedGraph.foldlM_addEdge (by rwa [hmem]) hends
  refine ⟨⟨ps, g'⟩, ?_, rfl, fun a => (hnodes' a).trans (hmem a), ?_⟩
  · simp only [build, hg, bind, Except.bind, hg', pure, Except.pure]
  · funext a b
    refine propext ((hedges' (a, b)).trans ?_)
    rw [hedges, mem_referencePairs_iff]
    simp [DirectedGraph.empty]

/-- There is no graph exactly if some parameter has no identity. -/
theorem build_spec (d : Dialect) (ps : List Parameter) :
    (Ident.absent ∈ ps.map (·.id) ∧ build d ps = .error DirectedGraph.absentNode) ∨
      Ident.absent ∉ ps.map (·.id) ∧ ∃ g, build d ps = .ok g ∧ g.IsBuilt d ps := by
  by_cases h : Ident.absent ∈ ps.map (·.id)
  · exact .inl ⟨h, build_of_absent h⟩
  · exact .inr ⟨h, exists_build d ps h⟩

theorem isBuilt_of_build (h : build d ps = .ok g) : g.IsBuilt d ps := by
  rcases build_spec d ps with ⟨-, he⟩ | ⟨-, g', hg', hbuilt⟩
  · simp [he] at h
  · obtain rfl := Except.ok.inj (hg'.symm.trans h)
    exact hbuilt

/-- What a library lists are the elementary cycles. -/
theorem IsBuilt.mem_cycles_iff {lib : DirectedGraph.Library} (hl : lib.IsSound) (h : g.IsBuilt d ps)
    {c : Cycle Ident} : (∃ l ∈ lib.cycles g.directed, (l : Cycle Ident) = c) ↔ c ∈ elementary d ps := by
  rw [hl.mem_cycles_iff, h.joins, mem_elementary_iff]

theorem IsBuilt.cycles_eq_nil_iff {lib : DirectedGraph.Library} (hl : lib.IsSound)
    (h : g.IsBuilt d ps) : g.cycles lib = [] ↔ elementary d ps = ∅ := by
  rw [cycles, List.map_eq_nil_iff, Set.eq_empty_iff_forall_notMem]
  constructor
  · intro hnil c hc
    obtain ⟨l, hm, -⟩ := (h.mem_cycles_iff hl).2 hc
    simp [hnil] at hm
  · intro hnone
    refine List.eq_nil_iff_forall_not_mem.2 fun l hm => ?_
    exact hnone _ ((h.mem_cycles_iff hl).1 ⟨l, hm, rfl⟩)

end Graph

end Parametric
