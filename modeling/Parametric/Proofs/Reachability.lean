import Parametric.Proofs.Clearing

/-! # What a parameter depends on through others, and what depends on it through others

A library collects both sets on the graph, going forward along references and back against them. A
check before an edit searches a third way, from formula to formula. -/
namespace Parametric

open Relation

/-- The formula of the first parameter references the second one. -/
def DependsOn (d : Dialect) (ps : List Parameter) (p q : Parameter) : Prop :=
  q ∈ dependencies d p ps

section DependsOn

variable {d : Dialect} {s : Snapshot} {p q : Parameter}

theorem DependsOn.mem {ps : List Parameter} (h : DependsOn d ps p q) : q ∈ ps :=
  Reference.of_subset d ps p.formula h

theorem references_iff_dependsOn (hp : p ∈ s.parameters) {b : Ident} :
    References d s.parameters p.id b ↔ ∃ q, DependsOn d s.parameters p q ∧ q.id = b := by
  constructor
  · rintro ⟨p', hp', hid, hb⟩
    rw [Snapshot.eq_of_id_eq hp' hp hid] at hb
    exact List.mem_map.1 hb
  · rintro ⟨q, hq, rfl⟩
    exact ⟨p, hp, rfl, List.mem_map_of_mem hq⟩

theorem transGen_references_iff (hp : p ∈ s.parameters) {b : Ident} :
    TransGen (References d s.parameters) p.id b ↔
      ∃ q ∈ s.parameters, TransGen (DependsOn d s.parameters) p q ∧ q.id = b := by
  constructor
  · intro h
    induction h with
    | single hb =>
      obtain ⟨q, hq, rfl⟩ := (references_iff_dependsOn hp).1 hb
      exact ⟨q, hq.mem, .single hq, rfl⟩
    | tail _ hb ih =>
      obtain ⟨q, hq, hpq, rfl⟩ := ih
      obtain ⟨r, hr, rfl⟩ := (references_iff_dependsOn hq).1 hb
      exact ⟨r, hr.mem, hpq.tail hr, rfl⟩
  · rintro ⟨q, hq, hpq, rfl⟩
    induction hpq with
    | single h => exact .single ((references_iff_dependsOn hp).2 ⟨_, h, rfl⟩)
    | tail hpq h ih =>
      obtain ⟨_, -, hlast⟩ := TransGen.tail'_iff.1 hpq
      exact (ih hlast.mem).tail ((references_iff_dependsOn hlast.mem).2 ⟨_, h, rfl⟩)

theorem transGen_dependsOn_iff (hp : p ∈ s.parameters) (hq : q ∈ s.parameters) :
    TransGen (DependsOn d s.parameters) p q ↔
      TransGen (References d s.parameters) p.id q.id := by
  rw [transGen_references_iff hp]
  constructor
  · exact fun h => ⟨q, hq, h, rfl⟩
  · rintro ⟨r, hr, h, hid⟩
    rwa [Snapshot.eq_of_id_eq hr hq hid] at h

end DependsOn

/-- Some parameters of a snapshot in its order, each once and `p` not among them. -/
structure IsSelection (s : Snapshot) (p : Parameter) (qs : List Parameter) : Prop where
  sublist : qs.Sublist s.parameters
  nodup : qs.Nodup
  notMem : p ∉ qs

theorem isSelection_select {s : Snapshot} {p : Parameter} {ids : List Ident} (hp : p.id ∉ ids) :
    IsSelection s p (Parameter.select ids s.parameters) where
  sublist := List.filter_sublist
  nodup := (List.Nodup.of_map _ s.ids_nodup).filter _
  notMem h := hp (of_decide_eq_true (List.mem_filter.1 h).2)

namespace Graph

section IsBuilt

variable {d : Dialect} {ps : List Parameter} {g : Graph} {lib : DirectedGraph.Library} {p q : Parameter}

theorem IsBuilt.mem_allDependencies_iff (hl : lib.IsSound) (h : g.IsBuilt d ps)
    (hp : p.id ∈ ps.map (·.id)) : q ∈ g.allDependencies lib p ↔
      q ∈ ps ∧ TransGen (References d ps) p.id q.id ∧ q.id ≠ p.id := by
  have hnode := (h.mem_nodes_iff p.id).2 hp
  rw [allDependencies, if_pos hnode, Parameter.select, List.mem_filter, decide_eq_true_eq,
    hl.mem_descendants_iff _ _ hnode, h.joins, h.parameters]

theorem IsBuilt.mem_allDependents_iff (hl : lib.IsSound) (h : g.IsBuilt d ps)
    (hp : p.id ∈ ps.map (·.id)) : q ∈ g.allDependents lib p ↔
      q ∈ ps ∧ TransGen (References d ps) q.id p.id ∧ q.id ≠ p.id := by
  have hnode := (h.mem_nodes_iff p.id).2 hp
  rw [allDependents, if_pos hnode, Parameter.select, List.mem_filter, decide_eq_true_eq,
    hl.mem_ancestors_iff _ _ hnode, h.joins, h.parameters]

end IsBuilt

variable {d : Dialect} {s : Snapshot} {p q : Parameter} {g : Graph} {lib : DirectedGraph.Library}

/-- The two sets that a library collects on a graph are converse to each other and are what chains of
references lead to and come from, without the parameter itself. What leads to it through a new
formula is a reference to it or to something that depends on it. -/
structure Agrees (d : Dialect) (lib : DirectedGraph.Library) (s : Snapshot) (p : Parameter) (g : Graph) :
    Prop where
  mem_allDependencies_iff : ∀ q ∈ s.parameters, q ∈ g.allDependencies lib p ↔
    q ≠ p ∧ TransGen (DependsOn d s.parameters) p q
  mem_allDependents_iff : ∀ q ∈ s.parameters,
    q ∈ g.allDependents lib p ↔ p ∈ g.allDependencies lib q
  dependencies : IsSelection s p (g.allDependencies lib p)
  dependents : IsSelection s p (g.allDependents lib p)
  wouldCycle_iff : ∀ share formula, (Cycle.detect d share p formula s.parameters).wouldCycle = true ↔
    ∃ q ∈ Reference.of d s.parameters formula, q = p ∨ q ∈ g.allDependents lib p

theorem reflTransGen_references_iff (hp : p ∈ s.parameters) (hq : q ∈ s.parameters) :
    ReflTransGen (References d s.parameters) q.id p.id ↔
      q = p ∨ TransGen (DependsOn d s.parameters) q p := by
  rw [reflTransGen_iff_eq_or_transGen, transGen_dependsOn_iff hq hp]
  refine or_congr_left ⟨fun h => ?_, fun h => h ▸ rfl⟩
  exact Snapshot.eq_of_id_eq hq hp h.symm

theorem detect_wouldCycle_iff_dependsOn (d : Dialect) (hp : p ∈ s.parameters) (share : Bool)
    (formula : Option Text) : (Cycle.detect d share p formula s.parameters).wouldCycle = true ↔
      ∃ q ∈ Reference.of d s.parameters formula, q = p ∨ TransGen (DependsOn d s.parameters) q p := by
  rw [Cycle.detect_wouldCycle_iff]
  simp only [List.mem_map, exists_exists_and_eq_and]
  refine exists_congr fun q => and_congr_right fun hq => ?_
  exact reflTransGen_references_iff hp (Reference.of_subset d s.parameters formula hq)

theorem IsBuilt.agrees (hl : lib.IsSound) (h : g.IsBuilt d s.parameters) (hp : p ∈ s.parameters) :
    Agrees d lib s p g := by
  have hnode {q : Parameter} (hq : q ∈ s.parameters) : q.id ∈ s.parameters.map (·.id) :=
    List.mem_map_of_mem hq
  have hids {q : Parameter} (hq : q ∈ s.parameters) : q.id ≠ p.id ↔ q ≠ p :=
    ⟨fun h he => h (he ▸ rfl), fun h he => h (Snapshot.eq_of_id_eq hq hp he)⟩
  have hdependents {q : Parameter} (hq : q ∈ s.parameters) :
      q ∈ g.allDependents lib p ↔ q ≠ p ∧ TransGen (DependsOn d s.parameters) q p := by
    rw [h.mem_allDependents_iff hl (hnode hp), and_iff_right hq, transGen_dependsOn_iff hq hp,
      hids hq, and_comm]
  constructor
  · intro q hq
    rw [h.mem_allDependencies_iff hl (hnode hp), and_iff_right hq, transGen_dependsOn_iff hp hq,
      hids hq, and_comm]
  · intro q hq
    rw [hdependents hq, h.mem_allDependencies_iff hl (hnode hq), and_iff_right hp,
      ← transGen_dependsOn_iff hq hp, ← hids hq, ne_comm, and_comm]
  · rw [allDependencies, if_pos ((h.mem_nodes_iff _).2 (hnode hp)), h.parameters]
    refine isSelection_select fun hm => ?_
    exact ((hl.mem_descendants_iff _ _ ((h.mem_nodes_iff _).2 (hnode hp)) _).1 hm).2 rfl
  · rw [allDependents, if_pos ((h.mem_nodes_iff _).2 (hnode hp)), h.parameters]
    refine isSelection_select fun hm => ?_
    exact ((hl.mem_ancestors_iff _ _ ((h.mem_nodes_iff _).2 (hnode hp)) _).1 hm).2 rfl
  · intro share formula
    rw [detect_wouldCycle_iff_dependsOn d hp]
    refine exists_congr fun q => and_congr_right fun hq => ?_
    rw [hdependents (Reference.of_subset d s.parameters formula hq)]
    tauto

/-- A parameter without an identity leaves no graph to ask. Otherwise what the graph tells agrees with
the chains of references, and so does a check of a new formula in any case. -/
theorem reachability_agrees (d : Dialect) (hl : lib.IsSound) (s : Snapshot) (hp : p ∈ s.parameters) :
    (∀ share formula, (Cycle.detect d share p formula s.parameters).wouldCycle = true ↔
        ∃ q ∈ Reference.of d s.parameters formula,
          q = p ∨ TransGen (DependsOn d s.parameters) q p) ∧
      (Ident.absent ∈ s.parameters.map (·.id) ∧
          build d s.parameters = .error DirectedGraph.absentNode ∨
        Ident.absent ∉ s.parameters.map (·.id) ∧
          ∃ g, build d s.parameters = .ok g ∧ Agrees d lib s p g) := by
  refine ⟨detect_wouldCycle_iff_dependsOn d hp, ?_⟩
  exact (build_spec d s.parameters).imp_right fun ⟨hids, g, hg, hbuilt⟩ =>
    ⟨hids, g, hg, hbuilt.agrees hl hp⟩

theorem reachability_agrees_cycle :
    let s := Guard.three (some "B") (some "A + C") none
    let a := Cycle.plain 1 "A" (some "B")
    let c := Cycle.plain 3 "C" none
    ∃ g, build .standard s.parameters = .ok g ∧ a ∈ s.parameters ∧ c ∈ s.parameters ∧
      c ∈ g.allDependencies .standard a ∧ a ∉ g.allDependencies .standard a ∧
      a ∈ g.allDependents .standard c ∧
      (Cycle.detect .standard true a (some "B") s.parameters).wouldCycle = true := by
  intro s a c
  let b := Cycle.plain 2 "B" (some "A + C")
  have ha : a ∈ s.parameters := List.mem_cons_self
  have hb : b ∈ s.parameters := List.mem_cons_of_mem a List.mem_cons_self
  have hc : c ∈ s.parameters := List.mem_of_getLast? rfl
  have hab : Parametric.dependencies .standard a s.parameters = [b] := by cbv
  have hbc : Parametric.dependencies .standard b s.parameters = [a, c] := by cbv
  have hstep : DependsOn .standard s.parameters a b := by
    rw [DependsOn, hab]
    exact List.mem_cons_self
  have hback : DependsOn .standard s.parameters b a := by
    rw [DependsOn, hbc]
    exact List.mem_cons_self
  have hout : DependsOn .standard s.parameters b c := by
    rw [DependsOn, hbc]
    exact List.mem_of_getLast? rfl
  have hl := DirectedGraph.Library.isSound_standard
  have hno : Ident.absent ∉ s.parameters.map (·.id) := by decide
  obtain ⟨hcheck, ⟨hno', -⟩ | ⟨-, g, hg, hagrees⟩⟩ := reachability_agrees .standard hl s ha
  · exact absurd hno' hno
  have hagreesc := (isBuilt_of_build hg).agrees hl hc
  have hleads := (hagrees.mem_allDependencies_iff c hc).2
    ⟨by simp [a, c, Cycle.plain], .tail (.single hstep) hout⟩
  exact ⟨g, hg, ha, hc, hleads, hagrees.dependencies.notMem,
    (hagreesc.mem_allDependents_iff a ha).2 hleads,
    (hcheck true (some "B")).2 ⟨b, hstep, Or.inr (.single hback)⟩⟩

def unidentified : Snapshot where
  parameters := [⟨.absent, some "A", false, .null, none, false⟩]
  ids_nodup := by decide
  names_nodup := by decide

/-- Nothing depends on a parameter without an identity, and yet there is no graph to tell it. -/
theorem reachability_unidentified :
    ∃ p ∈ unidentified.parameters, (∀ q, ¬ DependsOn .standard unidentified.parameters p q) ∧
      ¬ ∃ g, build .standard unidentified.parameters = .ok g := by
  refine ⟨⟨.absent, some "A", false, .null, none, false⟩, List.mem_cons_self, fun q h => ?_, ?_⟩
  · exact List.not_mem_nil h
  · rintro ⟨g, hg⟩
    have hnone : build .standard unidentified.parameters = .error DirectedGraph.absentNode := by rfl
    simp [hnone] at hg

end Graph

end Parametric
