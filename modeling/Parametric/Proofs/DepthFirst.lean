import Mathlib.Data.List.Chain
import Mathlib.Data.List.Nodup
import Parametric.Graph.Search

/-! # The depth-first search: its invariant, its end, and what the answer means -/
namespace Parametric.Search

variable (next : Parameter → List Parameter) (goal : Ident) (ps : List Parameter)

/-- What the parameters of a list lead to, by identities. -/
def Leads (a b : Ident) : Prop := ∃ p ∈ ps, p.id = a ∧ b ∈ (next p).map (·.id)

/-- Identities tell the parameters apart, and all that they lead to is in the list, in its order. -/
structure Searchable : Prop where
  ids_nodup : (ps.map (·.id)).Nodup
  sublist : ∀ p, (next p).Sublist ps

/-- A search that has visited these has nothing left to try. -/
structure Exhausted (visited : List Ident) : Prop where
  goal_notMem : goal ∉ visited
  closed : ∀ p ∈ ps, p.id ∈ visited → ∀ q ∈ next p, q.id ∈ visited

structure IsPath (root : Parameter) (path : List Parameter) : Prop where
  head : path.head? = some root
  last : ∃ q ∈ path.getLast?, q.id = goal
  mem : ∀ p ∈ path, p ∈ ps
  chain : path.IsChain fun p q => q ∈ next p
  nodup : (path.map (·.id)).Nodup

/-- A path is right, and so is the answer that there is none. -/
def Answers (root : Parameter) (answer : Option (List Parameter) × List Ident) : Prop :=
  match answer.1 with
  | some path => IsPath next goal ps root path
  | none => root.id ∈ answer.2 ∧ Exhausted next goal ps answer.2

/-- `q` is still to be tried from `p`. -/
def Pending (trail : List Frame) (p q : Parameter) : Prop :=
  ∃ f ∈ trail, f.node = p ∧ q ∈ f.untried

/-- What every step of a search from `root` keeps. -/
structure Invariant (root : Parameter) (s : State) : Prop where
  goal_notMem : goal ∉ s.visited
  root_mem : root.id ∈ s.visited
  frames : ∀ f ∈ s.trail, f.node ∈ ps ∧ f.node.id ∈ s.visited ∧ f.untried ⊆ next f.node
  settled : ∀ p ∈ ps, p.id ∈ s.visited → ∀ q ∈ next p,
    q.id ∈ s.visited ∨ Pending s.trail p q
  head : ∀ p ∈ (nodes s.trail).head?, p = root
  chain : (nodes s.trail).IsChain fun p q => q ∈ next p
  nodup : ((nodes s.trail).map (·.id)).Nodup

@[simp] theorem nodes_nil : nodes [] = [] := rfl

@[simp] theorem nodes_cons (f : Frame) (trail : List Frame) :
    nodes (f :: trail) = nodes trail ++ [f.node] := by
  simp [nodes]

theorem pending_cons {f : Frame} {trail : List Frame} {p q : Parameter} :
    Pending (f :: trail) p q ↔ (f.node = p ∧ q ∈ f.untried) ∨ Pending trail p q := by
  simp [Pending]

variable {next goal ps} {root : Parameter}

theorem Searchable.mem (h : Searchable next ps) {p q : Parameter} (hq : q ∈ next p) : q ∈ ps :=
  (h.sublist p).subset hq

theorem Searchable.eq_of_id (h : Searchable next ps) {p q : Parameter} (hp : p ∈ ps) (hq : q ∈ ps)
    (he : p.id = q.id) : p = q :=
  List.inj_on_of_nodup_map h.ids_nodup hp hq he

namespace Invariant

variable {node child : Parameter} {untried : List Parameter} {trail : List Frame}
  {visited : List Ident}

theorem mem_visited {s : State} (h : Invariant next goal ps root s) {p : Parameter}
    (hp : p ∈ nodes s.trail) : p.id ∈ s.visited := by
  obtain ⟨f, hf, rfl⟩ := List.mem_map.1 (List.mem_reverse.1 hp)
  exact (h.frames f hf).2.1

theorem child_mem
    (h : Invariant next goal ps root ⟨⟨node, child :: untried⟩ :: trail, visited⟩) :
    child ∈ next node :=
  (h.frames _ List.mem_cons_self).2.2 List.mem_cons_self

theorem pop (h : Invariant next goal ps root ⟨⟨node, []⟩ :: trail, visited⟩) :
    Invariant next goal ps root ⟨trail, visited⟩ := by
  obtain ⟨hg, hr, hf, hs, hh, hc, hn⟩ := h
  simp only [nodes_cons, List.map_append] at hh hc hn
  refine ⟨hg, hr, fun f hm => hf f (List.mem_cons_of_mem _ hm), ?_, ?_, hc.left_of_append,
    (List.nodup_append.1 hn).1⟩
  · intro p hp hv q hq
    rcases hs p hp hv q hq with hq | hq
    · exact Or.inl hq
    · rcases pending_cons.1 hq with ⟨_, hq⟩ | hq
      · simp at hq
      · exact Or.inr hq
  · intro p hp
    exact hh p (by rw [List.head?_append, Option.mem_def.1 hp]; rfl)

theorem skip (h : Invariant next goal ps root ⟨⟨node, child :: untried⟩ :: trail, visited⟩)
    (hv : child.id ∈ visited) : Invariant next goal ps root ⟨⟨node, untried⟩ :: trail, visited⟩ := by
  obtain ⟨hg, hr, hf, hs, hh, hc, hn⟩ := h
  obtain ⟨⟨hnode, hnv, hsub⟩, hf⟩ := List.forall_mem_cons.1 hf
  refine ⟨hg, hr, List.forall_mem_cons.2 ⟨⟨hnode, hnv, (List.cons_subset.1 hsub).2⟩, hf⟩, ?_, hh,
    hc, hn⟩
  intro p hp hpv q hq
  rcases hs p hp hpv q hq with hq | hq
  · exact Or.inl hq
  rcases pending_cons.1 hq with ⟨hn, hu⟩ | hu
  · rcases List.mem_cons.1 hu with rfl | hu
    · exact Or.inl hv
    · exact Or.inr (pending_cons.2 (Or.inl ⟨hn, hu⟩))
  · exact Or.inr (pending_cons.2 (Or.inr hu))

theorem isChain_nodes (h : Invariant next goal ps root ⟨⟨node, child :: untried⟩ :: trail, visited⟩) :
    (nodes (⟨node, child :: untried⟩ :: trail) ++ [child]).IsChain fun p q => q ∈ next p := by
  have hchild := h.child_mem
  exact h.chain.append (List.isChain_singleton _) (by simpa using hchild)

theorem nodup_nodes (h : Invariant next goal ps root ⟨⟨node, child :: untried⟩ :: trail, visited⟩)
    (hv : child.id ∉ visited) :
    ((nodes (⟨node, child :: untried⟩ :: trail) ++ [child]).map (·.id)).Nodup := by
  rw [List.map_append, List.nodup_append]
  refine ⟨h.nodup, by simp, ?_⟩
  rintro _ hm _ hc rfl
  obtain ⟨p, hpm, rfl⟩ := List.mem_map.1 hm
  rw [List.map_singleton, List.mem_singleton] at hc
  exact hv (hc ▸ h.mem_visited hpm)

theorem head_nodes (h : Invariant next goal ps root ⟨⟨node, child :: untried⟩ :: trail, visited⟩) :
    (nodes (⟨node, child :: untried⟩ :: trail) ++ [child]).head? = some root := by
  have hne : nodes (⟨node, child :: untried⟩ :: trail) ≠ [] := by simp
  rw [List.head?_append_of_ne_nil _ hne, List.head?_eq_some_head hne,
    h.head _ (List.head?_eq_some_head hne)]

/-- A new child is visited, and its own frame opened. -/
theorem push (hp : Searchable next ps)
    (h : Invariant next goal ps root ⟨⟨node, child :: untried⟩ :: trail, visited⟩)
    (hg : child.id ≠ goal) (hv : child.id ∉ visited) :
    Invariant next goal ps root
      ⟨⟨child, next child⟩ :: ⟨node, untried⟩ :: trail, child.id :: visited⟩ := by
  have hh := h.head_nodes
  have hc := h.isChain_nodes
  have hn := h.nodup_nodes hv
  have hmem := hp.mem h.child_mem
  obtain ⟨hgoal, hr, hf, hs, -, -, -⟩ := h
  obtain ⟨⟨hnode, hnv, hsub⟩, hf⟩ := List.forall_mem_cons.1 hf
  have hsub := (List.cons_subset.1 hsub).2
  refine ⟨List.not_mem_cons_of_ne_of_not_mem hg.symm hgoal, List.mem_cons_of_mem _ hr, ?_, ?_, ?_,
    ?_, ?_⟩
  · refine List.forall_mem_cons.2 ⟨⟨hmem, List.mem_cons_self, List.Subset.refl _⟩,
      List.forall_mem_cons.2 ⟨⟨hnode, List.mem_cons_of_mem _ hnv, hsub⟩, fun f hm => ?_⟩⟩
    obtain ⟨hnode, hnv, hsub⟩ := hf f hm
    exact ⟨hnode, List.mem_cons_of_mem _ hnv, hsub⟩
  · intro p hpp hpv q hq
    simp only [pending_cons] at hs ⊢
    rcases List.mem_cons.1 hpv with he | hpv
    · obtain rfl := hp.eq_of_id hpp hmem he
      exact Or.inr (Or.inl ⟨rfl, hq⟩)
    · rcases hs p hpp hpv q hq with hq | ⟨hn, hu⟩ | hu
      · exact Or.inl (List.mem_cons_of_mem _ hq)
      · rcases List.mem_cons.1 hu with rfl | hu
        · exact Or.inl List.mem_cons_self
        · exact Or.inr (Or.inr (Or.inl ⟨hn, hu⟩))
      · exact Or.inr (Or.inr (Or.inr hu))
  · intro p hm
    rw [nodes_cons] at hm
    exact Option.some.inj (hm.symm.trans hh)
  · rwa [nodes_cons]
  · rwa [nodes_cons]

theorem isPath (hp : Searchable next ps)
    (h : Invariant next goal ps root ⟨⟨node, child :: untried⟩ :: trail, visited⟩)
    (hg : child.id = goal) :
    IsPath next goal ps root (nodes (⟨node, child :: untried⟩ :: trail) ++ [child]) := by
  refine ⟨h.head_nodes, ⟨child, by simp, hg⟩, ?_, h.isChain_nodes,
    h.nodup_nodes (hg ▸ h.goal_notMem)⟩
  intro p hm
  rcases List.mem_append.1 hm with hm | hm
  · obtain ⟨f, hf, rfl⟩ := List.mem_map.1 (List.mem_reverse.1 hm)
    exact (h.frames f hf).1
  · rw [List.mem_singleton.1 hm]
    exact hp.mem h.child_mem

end Invariant

/-- The steps that close a trail, if every child is passed over. -/
def closing : List Frame → Nat
  | [] => 0
  | f :: trail => f.untried.length + 1 + closing trail

/-- An upper bound on the steps that are left: what is untried, and all that may still be entered. -/
def remaining (ps : List Parameter) (s : State) : Nat :=
  closing s.trail + (ps.filter (·.id ∉ s.visited)).length * (ps.length + 1)

theorem length_unvisited_lt {child : Parameter} {visited : List Ident} (hm : child ∈ ps)
    (hv : child.id ∉ visited) :
    (ps.filter (·.id ∉ child.id :: visited)).length < (ps.filter (·.id ∉ visited)).length := by
  have he : ps.filter (·.id ∉ child.id :: visited) =
      (ps.filter (·.id ∉ visited)).filter (·.id ≠ child.id) := by
    rw [List.filter_filter]
    congr 1
    funext p
    simp [not_or]
  rw [he]
  exact List.length_filter_lt_length_iff_exists.2 ⟨child, by simpa using ⟨hm, hv⟩, by simp⟩

theorem remaining_push (hs : ∀ p, (next p).Sublist ps) {node child : Parameter}
    {untried : List Parameter} {trail : List Frame} {visited : List Ident} (hm : child ∈ ps)
    (hv : child.id ∉ visited) :
    remaining ps ⟨⟨child, next child⟩ :: ⟨node, untried⟩ :: trail, child.id :: visited⟩ <
      remaining ps ⟨⟨node, child :: untried⟩ :: trail, visited⟩ := by
  have hnext := (hs child).length_le
  have hmul := Nat.mul_le_mul_right (ps.length + 1) (length_unvisited_lt hm hv)
  rw [Nat.succ_mul] at hmul
  simp only [remaining, closing, List.length_cons]
  omega

theorem step_child (node child : Parameter) (untried : List Parameter) (trail : List Frame)
    (visited : List Ident) :
    step next goal ⟨⟨node, child :: untried⟩ :: trail, visited⟩ =
      if child.id = goal then
        .ended (some (nodes (⟨node, child :: untried⟩ :: trail) ++ [child])) visited
      else if child.id ∈ visited then .searching ⟨⟨node, untried⟩ :: trail, visited⟩
      else .searching ⟨⟨child, next child⟩ :: ⟨node, untried⟩ :: trail, child.id :: visited⟩ :=
  rfl

theorem remaining_step (hs : ∀ p, (next p).Sublist ps) {s s' : State}
    (hu : ∀ f ∈ s.trail, f.untried ⊆ ps) (h : step next goal s = .searching s') :
    (∀ f ∈ s'.trail, f.untried ⊆ ps) ∧ remaining ps s' < remaining ps s := by
  obtain ⟨trail, visited⟩ := s
  cases trail with
  | nil => simp [step] at h
  | cons f trail =>
    obtain ⟨node, untried⟩ := f
    obtain ⟨hf, ht⟩ := List.forall_mem_cons.1 hu
    cases untried with
    | nil =>
      obtain rfl : ⟨trail, visited⟩ = s' := Progress.searching.inj h
      refine ⟨ht, ?_⟩
      simp only [remaining, closing, List.length_nil]
      omega
    | cons child untried =>
      obtain ⟨hm, hf⟩ := List.cons_subset.1 hf
      rw [step_child] at h
      split at h
      · simp at h
      split at h
      · obtain rfl := Progress.searching.inj h
        refine ⟨List.forall_mem_cons.2 ⟨hf, ht⟩, ?_⟩
        simp only [remaining, closing, List.length_cons]
        omega
      · rename_i hv
        obtain rfl := Progress.searching.inj h
        have hchild := (hs child).subset
        exact ⟨List.forall_mem_cons.2 ⟨hchild, List.forall_mem_cons.2 ⟨hf, ht⟩⟩,
          remaining_push hs hm hv⟩

/-- A step keeps the invariant and comes closer to the end, or it is the end. -/
theorem step_spec (hp : Searchable next ps) {s : State} (h : Invariant next goal ps root s) :
    (∃ s', step next goal s = .searching s' ∧ Invariant next goal ps root s' ∧
      remaining ps s' < remaining ps s) ∨
    ∃ answer visited, step next goal s = .ended answer visited ∧
      Answers next goal ps root (answer, visited) := by
  have hu : ∀ f ∈ s.trail, f.untried ⊆ ps := fun f hf =>
    List.Subset.trans (h.frames f hf).2.2 (hp.sublist f.node).subset
  have hlt (s' : State) (hs : step next goal s = .searching s') :
      remaining ps s' < remaining ps s := (remaining_step hp.sublist hu hs).2
  obtain ⟨trail, visited⟩ := s
  cases trail with
  | nil =>
    refine Or.inr ⟨none, visited, rfl, h.root_mem, h.goal_notMem, fun p hpp hpv q hq => ?_⟩
    simpa [Pending] using h.settled p hpp hpv q hq
  | cons f trail =>
    obtain ⟨node, untried⟩ := f
    cases untried with
    | nil => exact Or.inl ⟨⟨trail, visited⟩, rfl, h.pop, hlt _ rfl⟩
    | cons child untried =>
      rw [step_child] at hlt ⊢
      by_cases hg : child.id = goal
      · rw [if_pos hg]
        exact Or.inr ⟨_, _, rfl, h.isPath hp hg⟩
      rw [if_neg hg] at hlt ⊢
      by_cases hv : child.id ∈ visited
      · rw [if_pos hv] at hlt ⊢
        exact Or.inl ⟨_, rfl, h.skip hv, hlt _ rfl⟩
      · rw [if_neg hv] at hlt ⊢
        exact Or.inl ⟨_, rfl, h.push hp hg hv, hlt _ rfl⟩

theorem run_answers (hp : Searchable next ps) (fuel : Nat) {s : State}
    (h : Invariant next goal ps root s) (hf : remaining ps s < fuel) :
    Answers next goal ps root (run next goal fuel s) := by
  induction fuel generalizing s with
  | zero => omega
  | succ fuel ih =>
    unfold run
    rcases step_spec hp h with ⟨s', hs, h', hlt⟩ | ⟨answer, visited, hs, ha⟩
    · rw [hs]
      exact ih h' (by omega)
    · rw [hs]
      exact ha

theorem Invariant.initial (hp : Searchable next ps) (hr : root ∈ ps) {visited : List Ident}
    (h : Exhausted next goal ps visited) (hg : root.id ≠ goal) :
    Invariant next goal ps root ⟨[⟨root, next root⟩], root.id :: visited⟩ := by
  refine ⟨List.not_mem_cons_of_ne_of_not_mem hg.symm h.goal_notMem, List.mem_cons_self, ?_, ?_, ?_,
    ?_, ?_⟩
  · simpa using hr
  · intro p hpp hpv q hq
    rcases List.mem_cons.1 hpv with he | hpv
    · obtain rfl := hp.eq_of_id hpp hr he
      exact Or.inr ⟨_, List.mem_singleton_self _, rfl, hq⟩
    · exact Or.inl (List.mem_cons_of_mem _ (h.closed p hpp hpv q hq))
  · simp
  · exact List.isChain_singleton root
  · simp

/-- There is enough fuel, so the search answers, whatever was ruled out before it. -/
theorem path_answers (hp : Searchable next ps) (hr : root ∈ ps) {visited : List Ident}
    (h : Exhausted next goal ps visited) :
    Answers next goal ps root (path next goal ps.length root visited) := by
  unfold path
  by_cases hg : root.id = goal
  · rw [if_pos hg]
    exact ⟨rfl, ⟨root, rfl, hg⟩, by simpa using hr, List.isChain_singleton root, by simp⟩
  rw [if_neg hg]
  by_cases hv : root.id ∈ visited
  · rw [if_pos hv]
    exact ⟨hv, h⟩
  rw [if_neg hv]
  refine run_answers hp _ (Invariant.initial hp hr h hg) ?_
  have hnext := (hp.sublist root).length_le
  have hlt := (length_unvisited_lt hr hv).le.trans (List.length_filter_le _ _)
  have hmul := Nat.mul_le_mul_right (ps.length + 1) (hlt.trans (Nat.le_add_right _ 2))
  simp only [remaining, closing, enough]
  rw [Nat.mul_succ (ps.length + 2) (ps.length + 1)]
  omega

theorem exhausted_nil : Exhausted next goal ps [] := ⟨by simp, by simp⟩

namespace IsPath

variable {path : List Parameter}

theorem isChain_ids (h : IsPath next goal ps root path) :
    (path.map (·.id)).IsChain (Leads next ps) := by
  rw [List.isChain_map]
  refine h.chain.imp_of_mem_imp fun p q hp _ hq => ?_
  exact ⟨p, h.mem p hp, rfl, List.mem_map_of_mem hq⟩

theorem exists_cons (h : IsPath next goal ps root path) : ∃ rest, path = root :: rest := by
  simpa [List.head?_eq_some_iff] using h.head

/-- What holds at the root and goes on to what is referenced holds along the path. -/
theorem forall_mem (h : IsPath next goal ps root path) {P : Parameter → Prop} (hr : P root)
    (hn : ∀ p, ∀ q ∈ next p, P p → P q) : ∀ p ∈ path, P p := by
  obtain ⟨rest, rfl⟩ := h.exists_cons
  exact List.IsChain.induction P _ h.chain (fun p q hq => hn p q hq) fun _ => hr

theorem leads (h : IsPath next goal ps root path) :
    Relation.ReflTransGen (Leads next ps) root.id goal := by
  obtain ⟨rest, rfl⟩ := h.exists_cons
  obtain ⟨q, hq, rfl⟩ := h.last
  have hlast : ((root :: rest).map (·.id)).getLast (by simp) = q.id := by
    rw [List.getLast_map, Option.some.inj ((List.getLast?_eq_some_getLast _).symm.trans hq)]
  exact List.relationReflTransGen_of_exists_isChain_cons _ h.isChain_ids hlast

end IsPath

theorem Exhausted.not_leads {visited : List Ident} (h : Exhausted next goal ps visited)
    {id : Ident} (hv : id ∈ visited) : ¬ Relation.ReflTransGen (Leads next ps) id goal := by
  have hmem : ∀ b, Relation.ReflTransGen (Leads next ps) id b → b ∈ visited := by
    intro b hb
    induction hb with
    | refl => exact hv
    | tail _ hab ih =>
      obtain ⟨p, hp, rfl, hb⟩ := hab
      obtain ⟨q, hq, rfl⟩ := List.mem_map.1 hb
      exact h.closed p hp ih q hq
  exact fun hl => h.goal_notMem (hmem goal hl)

end Parametric.Search
