import Mathlib.Data.Fintype.Card
import Mathlib.Data.Fintype.EquivFin
import Mathlib.Data.List.Perm.Subperm
import Mathlib.Logic.Relation
import Parametric.Graph.Library

/-! # Sorting a graph by generations

A generation holds what is ready and not yet placed. When a generation is empty, everything that is
ready has been placed, and what is left then leads in circles. -/
namespace Parametric.DirectedGraph

open Relation

/-- All nodes, each of them after those that have an edge to it. -/
structure IsTopological (g : DirectedGraph) (l : List Ident) : Prop where
  perm : l.Perm g.nodes
  before : ∀ before b after, l = before ++ b :: after → ∀ a, g.Joins a b → a ∈ before

variable {g : DirectedGraph} {placed placed' generation : List Ident}

/-- All that has an edge to a node has been placed. -/
structure Ready (g : DirectedGraph) (placed : List Ident) (id : Ident) : Prop where
  mem : id ∈ g.nodes
  placed : ∀ a, g.Joins a id → a ∈ placed

theorem Ready.mono {id : Ident} (h : g.Ready placed id) (hsub : placed ⊆ placed') :
    g.Ready placed' id :=
  ⟨h.mem, fun a ha => hsub (h.placed a ha)⟩

/-- Each of the list is ready when it is its turn, and was not placed before. -/
def Placeable (g : DirectedGraph) : List Ident → List Ident → Prop
  | _, [] => True
  | placed, id :: rest => (id ∉ placed ∧ g.Ready placed id) ∧ Placeable g (id :: placed) rest

theorem placeable_append {xs ys : List Ident} :
    g.Placeable placed (xs ++ ys) ↔
      g.Placeable placed xs ∧ g.Placeable (xs.reverse ++ placed) ys := by
  induction xs generalizing placed with
  | nil => simp [Placeable]
  | cons id xs ih => simp [Placeable, ih, and_assoc]

theorem Placeable.nodup {xs : List Ident} (h : g.Placeable placed xs) :
    xs.Nodup ∧ ∀ id ∈ xs, id ∉ placed := by
  induction xs generalizing placed with
  | nil => simp
  | cons id xs ih =>
    obtain ⟨⟨hnew, -⟩, h⟩ := h
    obtain ⟨hn, hfresh⟩ := ih h
    refine ⟨List.nodup_cons.2 ⟨fun hm => hfresh id hm List.mem_cons_self, hn⟩,
      List.forall_mem_cons.2 ⟨hnew, fun a ha hp => ?_⟩⟩
    exact hfresh a ha (List.mem_cons_of_mem id hp)

theorem not_mem_cons_of_fresh {xs : List Ident} {id : Ident} (hid : id ∉ xs)
    (hfresh : ∀ a ∈ xs, a ∉ placed) : ∀ a ∈ xs, a ∉ id :: placed :=
  fun a ha => List.not_mem_cons_of_ne_of_not_mem (ne_of_mem_of_not_mem ha hid) (hfresh a ha)

theorem placeable_of_ready {xs : List Ident} (hn : xs.Nodup) (hfresh : ∀ id ∈ xs, id ∉ placed)
    (hr : ∀ id ∈ xs, g.Ready placed id) : g.Placeable placed xs := by
  induction xs generalizing placed with
  | nil => trivial
  | cons id xs ih =>
    obtain ⟨hid, hn⟩ := List.nodup_cons.1 hn
    obtain ⟨hnew, hfresh⟩ := List.forall_mem_cons.1 hfresh
    obtain ⟨hready, hr⟩ := List.forall_mem_cons.1 hr
    exact ⟨⟨hnew, hready⟩, ih hn (not_mem_cons_of_fresh hid hfresh)
      fun a ha => (hr a ha).mono (List.subset_cons_self id placed)⟩

theorem mem_ready_iff {a id : Ident} (ha : a ∉ placed) :
    id ∈ (g.next a).filter (fun b => (g.reverse.next b).all (· ∈ a :: placed)) ↔
      g.Ready (a :: placed) id ∧ ¬ g.Ready placed id := by
  simp only [List.mem_filter, mem_next_iff, List.all_eq_true, joins_reverse, decide_eq_true_eq]
  constructor
  · rintro ⟨haid, hall⟩
    exact ⟨⟨haid.mem.2, hall⟩, fun h => ha (h.placed a haid)⟩
  · rintro ⟨⟨hmem, hall⟩, hno⟩
    refine ⟨?_, hall⟩
    -- a node that has no edge from `a` was ready without it
    by_contra hat
    refine hno ⟨hmem, fun t ht => ?_⟩
    exact (List.mem_cons.1 (hall t ht)).resolve_left fun h => hat (h ▸ ht)

theorem mem_nextGeneration_iff {id : Ident} (hn : generation.Nodup)
    (hfresh : ∀ a ∈ generation, a ∉ placed) :
    id ∈ g.nextGeneration placed generation ↔
      g.Ready (generation.reverse ++ placed) id ∧ ¬ g.Ready placed id := by
  induction generation generalizing placed with
  | nil => simp [nextGeneration]
  | cons a rest ih =>
    obtain ⟨ha, hn⟩ := List.nodup_cons.1 hn
    obtain ⟨hnew, hfresh⟩ := List.forall_mem_cons.1 hfresh
    have hrest := not_mem_cons_of_fresh ha hfresh
    have hfirst : g.Ready placed id → g.Ready (a :: placed) id :=
      fun h => h.mono (List.subset_cons_self a placed)
    have hlater : g.Ready (a :: placed) id → g.Ready (rest.reverse ++ a :: placed) id :=
      fun h => h.mono (List.subset_append_right _ _)
    rw [nextGeneration, List.mem_append, mem_ready_iff hnew, ih hn hrest, List.reverse_cons,
      List.append_assoc, List.singleton_append]
    tauto

theorem nodup_nextGeneration (hn : generation.Nodup) (hfresh : ∀ a ∈ generation, a ∉ placed) :
    (g.nextGeneration placed generation).Nodup := by
  induction generation generalizing placed with
  | nil => exact List.nodup_nil
  | cons a rest ih =>
    obtain ⟨ha, hn⟩ := List.nodup_cons.1 hn
    obtain ⟨hnew, hfresh⟩ := List.forall_mem_cons.1 hfresh
    have hrest := not_mem_cons_of_fresh ha hfresh
    rw [nextGeneration, List.nodup_append]
    refine ⟨(List.filter_sublist.trans (g.next_sublist a)).nodup g.nodes_nodup, ih hn hrest, ?_⟩
    rintro b hb _ hb' rfl
    exact ((mem_nextGeneration_iff hn hrest).1 hb').2 ((mem_ready_iff hnew).1 hb).1

/-- What every round keeps: what has been placed, and the generation with what is ready by then. -/
structure Stage (g : DirectedGraph) (placed generation : List Ident) : Prop where
  nodup : (generation.reverse ++ placed).Nodup
  ready_iff : ∀ id, g.Ready placed id ↔ id ∈ generation.reverse ++ placed

theorem Stage.fresh (h : g.Stage placed generation) :
    generation.Nodup ∧ ∀ id ∈ generation, id ∉ placed := by
  obtain ⟨hn, -, hdisjoint⟩ := List.nodup_append.1 h.nodup
  refine ⟨List.nodup_reverse.1 hn, fun id hm hp => ?_⟩
  exact hdisjoint id (List.mem_reverse.2 hm) id hp rfl

theorem stage_initial : g.Stage [] (g.nodes.filter fun a => (g.reverse.next a).isEmpty) where
  nodup := by
    rw [List.append_nil, List.nodup_reverse]
    exact List.filter_sublist.nodup g.nodes_nodup
  ready_iff id := by
    simp only [List.append_nil, List.mem_reverse, List.mem_filter, List.isEmpty_iff,
      List.eq_nil_iff_forall_not_mem, mem_next_iff, joins_reverse]
    exact ⟨fun h => ⟨h.mem, fun a ha => List.not_mem_nil (h.placed a ha)⟩,
      fun h => ⟨h.1, fun a ha => absurd ha (h.2 a)⟩⟩

theorem Stage.next (h : g.Stage placed generation) :
    g.Stage (generation.reverse ++ placed) (g.nextGeneration placed generation) := by
  obtain ⟨hn, hfresh⟩ := h.fresh
  have hmem (id : Ident) : id ∈ g.nextGeneration placed generation ↔
      g.Ready (generation.reverse ++ placed) id ∧ ¬ g.Ready placed id :=
    mem_nextGeneration_iff hn hfresh
  constructor
  · refine List.nodup_append.2 ⟨List.nodup_reverse.2 (nodup_nextGeneration hn hfresh), h.nodup, ?_⟩
    rintro id hnext _ hm rfl
    exact ((hmem id).1 (List.mem_reverse.1 hnext)).2 ((h.ready_iff id).2 hm)
  · intro id
    rw [List.mem_append, List.mem_reverse, hmem, ← h.ready_iff id]
    have hmono : g.Ready placed id → g.Ready (generation.reverse ++ placed) id :=
      fun hr => hr.mono (List.subset_append_right _ _)
    tauto

theorem generations_succ (fuel : Nat) (placed generation : List Ident) :
    g.generations (fuel + 1) placed generation =
      if generation = [] then []
      else generation ++
        g.generations fuel (generation.reverse ++ placed) (g.nextGeneration placed generation) := by
  cases generation with
  | nil => rfl
  | cons a rest => rfl

theorem placeable_generations (fuel : Nat) (h : g.Stage placed generation) :
    g.Placeable placed (g.generations fuel placed generation) := by
  induction fuel generalizing placed generation with
  | zero => trivial
  | succ fuel ih =>
    rw [generations_succ]
    split
    · trivial
    · obtain ⟨hn, hfresh⟩ := h.fresh
      refine placeable_append.2 ⟨placeable_of_ready hn hfresh fun id hm => ?_, ih h.next⟩
      exact (h.ready_iff id).2 (List.mem_append_left _ (List.mem_reverse.2 hm))

/-- With a round for every node all is placed that can be. -/
theorem mem_generations_of_ready (fuel : Nat) (h : g.Stage placed generation)
    (hf : g.nodes.length < fuel + placed.length) {id : Ident}
    (hr : g.Ready (g.generations fuel placed generation ++ placed) id) :
    id ∈ g.generations fuel placed generation ++ placed := by
  induction fuel generalizing placed generation with
  | zero =>
    -- without a round left, more would have been placed than there are nodes
    have hsub : placed ⊆ g.nodes :=
      fun a ha => ((h.ready_iff a).2 (List.mem_append_right _ ha)).mem
    have hle := ((List.nodup_append.1 h.nodup).2.1.subperm hsub).length_le
    omega
  | succ fuel ih =>
    rw [generations_succ] at hr ⊢
    by_cases hnone : generation = []
    · rw [if_pos hnone, List.nil_append] at hr ⊢
      simpa [hnone] using (h.ready_iff id).1 hr
    · rw [if_neg hnone] at hr ⊢
      have hpos := List.length_pos_iff.2 hnone
      have hf : g.nodes.length < fuel + (generation.reverse ++ placed).length := by
        rw [List.length_append, List.length_reverse]
        omega
      have hlater := ih h.next hf (hr.mono fun a ha => ?_)
      · simp only [List.mem_append, List.mem_reverse] at hlater ⊢
        tauto
      · simp only [List.mem_append, List.mem_reverse] at ha ⊢
        tauto

theorem sorted_placeable : g.Placeable [] g.sorted := placeable_generations _ stage_initial

theorem mem_sorted_of_ready {id : Ident} (hr : g.Ready g.sorted id) : id ∈ g.sorted := by
  rw [sorted, ← List.append_nil (DirectedGraph.generations _ _ _ _)] at hr ⊢
  exact mem_generations_of_ready _ stage_initial (Nat.lt_succ_self _) hr

theorem ready_of_sorted_eq {before after : List Ident} {id : Ident}
    (h : g.sorted = before ++ id :: after) : g.Ready before id := by
  have hp := sorted_placeable (g := g)
  rw [h, placeable_append] at hp
  refine hp.2.1.2.mono fun a ha => ?_
  simpa using ha

theorem sorted_subset : g.sorted ⊆ g.nodes := by
  intro a ha
  obtain ⟨before, after, h⟩ := List.append_of_mem ha
  exact (ready_of_sorted_eq h).mem

/-- Without cycles everything becomes ready: first what no edge leads to, then what only these have
an edge to, and so on. -/
theorem mem_sorted_of_acyclic (h : ∀ a, ¬ TransGen g.Joins a a) {a : Ident} (ha : a ∈ g.nodes) :
    a ∈ g.sorted := by
  let below (x y : {a // a ∈ g.nodes}) : Prop := TransGen g.Joins x y
  have htrans : IsTrans _ below := ⟨fun _ _ _ hxy hyz => hxy.trans hyz⟩
  have hirrefl : Std.Irrefl below := ⟨fun x => h x⟩
  have hwf : WellFounded below := Finite.wellFounded_of_trans_of_irrefl below
  have hall (x : {a // a ∈ g.nodes}) : x.1 ∈ g.sorted := by
    induction x using hwf.induction with
    | _ x ih => exact mem_sorted_of_ready ⟨x.2, fun b hb => ih ⟨b, hb.mem.1⟩ (.single hb)⟩
  exact hall ⟨a, ha⟩

theorem sorted_perm_of_acyclic (h : ∀ a, ¬ TransGen g.Joins a a) : g.sorted.Perm g.nodes :=
  (List.perm_ext_iff_of_nodup sorted_placeable.nodup.1 g.nodes_nodup).2 fun _ =>
    ⟨fun ha => sorted_subset ha, mem_sorted_of_acyclic h⟩

theorem IsTopological.acyclic {l : List Ident} (h : g.IsTopological l) (a : Ident) :
    ¬ TransGen g.Joins a a := by
  have hbefore {a b : Ident} (hab : TransGen g.Joins a b) {before after : List Ident}
      (hl : l = before ++ b :: after) : a ∈ before := by
    induction hab using TransGen.head_induction_on with
    | single hab => exact h.before _ _ _ hl _ hab
    | head hac _ ih =>
      obtain ⟨first, second, rfl⟩ := List.append_of_mem ih
      rw [List.append_assoc, List.cons_append] at hl
      exact List.mem_append_left _ (h.before _ _ _ hl _ hac)
  intro haa
  obtain ⟨b, hab, -⟩ := TransGen.head'_iff.1 haa
  obtain ⟨before, after, hl⟩ := List.append_of_mem (h.perm.mem_iff.2 hab.mem.1)
  have hnodup := h.perm.nodup_iff.2 g.nodes_nodup
  rw [hl, List.nodup_middle, List.nodup_cons] at hnodup
  exact hnodup.1 (List.mem_append_left _ (hbefore haa hl))

theorem sorted?_standard_spec :
    (∃ l, Library.standard.sorted? g = some l ∧ g.IsTopological l) ∨
      Library.standard.sorted? g = none ∧ ∃ a, TransGen g.Joins a a := by
  by_cases hlength : g.sorted.length = g.nodes.length
  · have hperm := (sorted_placeable.nodup.1.subperm (sorted_subset (g := g))).perm_of_length_le
      (le_of_eq hlength.symm)
    refine .inl ⟨g.sorted, if_pos hlength, hperm, fun before b after h => ?_⟩
    exact (ready_of_sorted_eq h).placed
  · refine .inr ⟨if_neg hlength, ?_⟩
    by_contra hacyclic
    exact hlength (sorted_perm_of_acyclic (not_exists.1 hacyclic)).length_eq

end Parametric.DirectedGraph
