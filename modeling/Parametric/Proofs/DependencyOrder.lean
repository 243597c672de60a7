import Mathlib.Tactic.TFAE
import Parametric.Proofs.ListedCycle

/-! # The order of the parameters: each comes after all that its formula references -/
namespace Parametric.Graph

open Relation

variable {d : Dialect} {s : Snapshot} {g : Graph} {lib : DirectedGraph.Library}

theorem IsBuilt.nodes_perm (h : g.IsBuilt d s.parameters) :
    g.directed.nodes.Perm (s.parameters.map (·.id)) :=
  (List.perm_ext_iff_of_nodup g.directed.nodes_nodup s.ids_nodup).2 h.mem_nodes_iff

/-- All parameters, each of them after those that its formula references. -/
structure IsSorted (d : Dialect) (ps qs : List Parameter) : Prop where
  perm : qs.Perm ps
  follows : ∀ before p after, qs = before ++ p :: after → dependencies d p ps ⊆ before

theorem IsBuilt.isSorted (h : g.IsBuilt d s.parameters) {ids : List Ident}
    (ht : g.directed.reverse.IsTopological ids) :
    IsSorted d s.parameters (ids.filterMap g.parameter?) := by
  have hids : ids.Perm (s.parameters.map (·.id)) := ht.perm.trans h.nodes_perm
  have hperm : (ids.filterMap g.parameter?).Perm s.parameters :=
    (hids.filterMap _).trans (.of_eq (h.filterMap_parameter?_map_id fun _ hq => hq))
  refine ⟨hperm, fun before p after hqs q hq => ?_⟩
  have hsplit : ids = before.map (·.id) ++ p.id :: after.map (·.id) := by
    rw [← h.map_id_filterMap_parameter? fun a ha => hids.mem_iff.1 ha, hqs, List.map_append,
      List.map_cons]
  have hp : p ∈ s.parameters := hperm.subset (by simp [hqs])
  have hjoins : g.directed.reverse.Joins q.id p.id := by
    rw [DirectedGraph.joins_reverse, h.joins]
    exact (references_iff_dependsOn hp).2 ⟨q, hq, rfl⟩
  obtain ⟨r, hr, hid⟩ := List.mem_map.1 (ht.before _ _ _ hsplit _ hjoins)
  have hmem : r ∈ s.parameters := hperm.subset (by simp [hqs, hr])
  rwa [← Snapshot.eq_of_id_eq hmem (DependsOn.mem hq) hid]

theorem acyclic_iff : (∀ a, ¬ TransGen (References d s.parameters) a a) ↔
    ∀ p ∈ s.parameters, ¬ TransGen (DependsOn d s.parameters) p p := by
  constructor
  · exact fun h p hp hpp => h p.id ((transGen_dependsOn_iff hp hp).1 hpp)
  · intro h a haa
    obtain ⟨b, hab, -⟩ := TransGen.head'_iff.1 haa
    obtain ⟨p, hp, rfl⟩ := List.mem_map.1 hab.mem_ids.1
    exact h p hp ((transGen_dependsOn_iff hp hp).2 haa)

theorem IsBuilt.order?_eq_none_iff (hl : lib.IsSound) (h : g.IsBuilt d s.parameters) :
    g.order? lib = none ↔ g.cycles lib ≠ [] := by
  have hswap : g.directed.reverse.Joins = Function.swap (References d s.parameters) := by
    funext a b
    rw [← h.joins]
    exact propext g.directed.joins_reverse
  rw [Ne, h.cycles_eq_nil_iff hl, elementary_eq_empty_iff, order?, Option.map_eq_none_iff,
    hl.sorted?_eq_none_iff, hswap]
  simp only [transGen_swap, not_forall, not_not]

theorem check_eq_ok_iff : g.check lib = .ok () ↔ g.cycles lib = [] := by
  unfold check
  cases g.cycles lib <;> simp

theorem order_eq_ok_iff {qs : List Parameter} : g.order lib = .ok qs ↔ g.order? lib = some qs := by
  unfold order
  cases g.order? lib with
  | some ps => simp
  | none => cases g.check lib <;> simp

theorem IsBuilt.map_some_shownName (hl : lib.IsSound) (h : g.IsBuilt d s.parameters)
    {names : List (Option Text)} (hm : names ∈ g.cycles lib) :
    names ≠ [] ∧ (names.map shownName).map some = names := by
  obtain ⟨qs, hqs, helem, rfl⟩ := h.exists_of_mem_cycles hl hm
  constructor
  · rintro hnil
    rw [List.map_eq_nil_iff.1 hnil] at helem
    exact (mem_elementary_iff.1 helem).ne_nil rfl
  · rw [List.map_map, List.map_map]
    refine List.map_congr_left fun q hq => ?_
    exact some_shownName_of_mem_elementary helem (hqs q hq)
      (Cycle.mem_coe_iff.2 (List.mem_map_of_mem hq))

/-- With cycles, the check and the order fail with the same one of them. -/
theorem IsBuilt.exists_loop (hl : lib.IsSound) (h : g.IsBuilt d s.parameters)
    (hne : g.cycles lib ≠ []) :
    ∃ l : Loop, l.names ≠ [] ∧ l.names.map some ∈ g.cycles lib ∧
      g.check lib = .error l ∧ g.order lib = .error l := by
  obtain ⟨c, rest, hc⟩ := List.exists_cons_of_ne_nil hne
  have hmem : c ∈ g.cycles lib := by simp [hc]
  have hcheck : g.check lib = .error ⟨c.map shownName⟩ := by rw [check, hc]
  have horder : g.order lib = .error ⟨c.map shownName⟩ := by
    rw [order, (h.order?_eq_none_iff hl).2 hne, hcheck]
  obtain ⟨hnames, hsome⟩ := h.map_some_shownName hl hmem
  exact ⟨⟨c.map shownName⟩, by simpa using hnames, hsome.symm ▸ hmem, hcheck, horder⟩

/-- The order and the check for cycles, each in its own way, find out whether some parameter leads
back to itself. If one does, both tell it by a cycle of the list. A parameter without an identity
leaves no graph to order. -/
theorem order_agrees (d : Dialect) (hl : lib.IsSound) (s : Snapshot) :
    Ident.absent ∈ s.parameters.map (·.id) ∧
        build d s.parameters = .error DirectedGraph.absentNode ∨
      Ident.absent ∉ s.parameters.map (·.id) ∧ ∃ g, build d s.parameters = .ok g ∧
        [∃ qs, g.order lib = .ok qs, g.check lib = .ok (), g.cycles lib = [],
          ∀ p ∈ s.parameters, ¬ TransGen (DependsOn d s.parameters) p p].TFAE ∧
        (∀ qs, g.order lib = .ok qs → IsSorted d s.parameters qs) ∧
        (g.cycles lib ≠ [] → ∃ l : Loop, l.names ≠ [] ∧ l.names.map some ∈ g.cycles lib ∧
          g.check lib = .error l ∧ g.order lib = .error l) := by
  refine (build_spec d s.parameters).imp_right fun ⟨hids, g, hg, h⟩ =>
    ⟨hids, g, hg, ?_, fun qs hqs => ?_, h.exists_loop hl⟩
  · tfae_have 1 ↔ 3 := by
      simp only [order_eq_ok_iff]
      rw [← Option.ne_none_iff_exists', Ne, h.order?_eq_none_iff hl, not_not]
    tfae_have 2 ↔ 3 := check_eq_ok_iff
    tfae_have 3 ↔ 4 := by
      rw [h.cycles_eq_nil_iff hl, elementary_eq_empty_iff, acyclic_iff]
    tfae_finish
  · obtain ⟨ids, hsorted, rfl⟩ := Option.map_eq_some_iff.1 (order_eq_ok_iff.1 hqs)
    exact h.isSorted (hl.isTopological _ _ hsorted)

theorem order_agrees_three :
    let row := Guard.three (some "B") (some "C") none
    let sorted := [Cycle.plain 3 "C" none, Cycle.plain 2 "B" (some "C"),
      Cycle.plain 1 "A" (some "B")]
    let pair := Guard.three (some "B") (some "A") none
    (∃ g, build .standard row.parameters = .ok g ∧ g.order .standard = .ok sorted ∧
      IsSorted .standard row.parameters sorted ∧ g.check .standard = .ok ()) ∧
    ∃ g, build .standard pair.parameters = .ok g ∧ ∃ l : Loop, l.names ≠ [] ∧
      l.names.map some ∈ g.cycles .standard ∧ g.check .standard = .error l ∧
      g.order .standard = .error l := by
  intro row sorted pair
  have hl := DirectedGraph.Library.isSound_standard
  constructor
  · obtain ⟨hids, -⟩ | ⟨-, g, hg, hagree, hsorted, -⟩ := order_agrees .standard hl row
    · exact absurd hids (by decide)
    have horder : (build .standard row.parameters).map (·.order .standard) = .ok (.ok sorted) := by cbv
    rw [hg] at horder
    have horder := Except.ok.inj horder
    have hcheck : (∃ qs, g.order .standard = .ok qs) ↔ g.check .standard = .ok () := hagree.out 0 1
    exact ⟨g, hg, horder, hsorted sorted horder, hcheck.1 ⟨sorted, horder⟩⟩
  · obtain ⟨hids, -⟩ | ⟨-, g, hg, -, -, hcyclic⟩ := order_agrees .standard hl pair
    · exact absurd hids (by decide)
    have hcycles : (build .standard pair.parameters).map (·.cycles .standard) =
        .ok [[some ("A" : Text), some ("B" : Text)]] := by cbv
    rw [hg] at hcycles
    exact ⟨g, hg, hcyclic (by simp [Except.ok.inj hcycles])⟩

/-- A parameter without an identity and without a formula leads to none, and yet cannot be ordered. -/
theorem order_unidentified :
    (∀ p ∈ unidentified.parameters, ¬ TransGen (DependsOn .standard unidentified.parameters) p p) ∧
      ¬ ∃ g qs, build .standard unidentified.parameters = .ok g ∧ g.order .standard = .ok qs := by
  have hnone : build .standard unidentified.parameters = .error DirectedGraph.absentNode := by rfl
  refine ⟨fun p hp h => ?_, by simp [hnone]⟩
  obtain ⟨q, hq, -⟩ := TransGen.head'_iff.1 h
  obtain rfl := List.mem_singleton.1 hp
  exact List.not_mem_nil hq

end Parametric.Graph
