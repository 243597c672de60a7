import Parametric.Proofs.Reachability

/-! # There is a cycle where something leads back to itself, and it is listed by names -/
namespace Parametric

open Relation

variable {d : Dialect} {s : Snapshot}

theorem transGen_of_mem_elementary {ps : List Parameter} {c : Cycle Ident}
    (hc : c ∈ elementary d ps) {a : Ident} (ha : a ∈ c) :
    TransGen (References d ps) a a := by
  obtain ⟨more, rfl⟩ := exists_cons_of_mem ha
  obtain ⟨-, hchain⟩ := isElementary_cons_iff.1 (mem_elementary_iff.1 hc)
  obtain ⟨b, rest, hb⟩ := List.exists_cons_of_ne_nil (l := more ++ [a]) (by simp)
  rw [hb] at hchain
  obtain ⟨hab, hchain⟩ := List.isChain_cons_cons.1 hchain
  refine TransGen.head' hab (List.relationReflTransGen_of_exists_isChain_cons rest hchain ?_)
  simp [← hb]

theorem mem_ids_of_mem_elementary {ps : List Parameter} {c : Cycle Ident}
    (hc : c ∈ elementary d ps) {a : Ident} (ha : a ∈ c) : a ∈ ps.map (·.id) := by
  obtain ⟨b, hab, -⟩ := TransGen.head'_iff.1 (transGen_of_mem_elementary hc ha)
  exact hab.mem_ids.1

/-- Some formula references a parameter on a cycle, which must have a name for that. -/
theorem some_shownName_of_mem_elementary {c : Cycle Ident}
    (hc : c ∈ elementary d s.parameters) {q : Parameter} (hq : q ∈ s.parameters)
    (hm : q.id ∈ c) : some (shownName q.name) = q.name := by
  obtain ⟨b, -, p, hp, rfl, hb⟩ := TransGen.tail'_iff.1 (transGen_of_mem_elementary hc hm)
  obtain ⟨r, hr, hid⟩ := List.mem_map.1 hb
  obtain rfl : r = q :=
    Snapshot.eq_of_id_eq (Reference.of_subset d s.parameters p.formula hr) hq hid
  obtain ⟨-, n, -, hn, -⟩ := Reference.exists_found_of_mem hr
  rw [hn]
  rfl

theorem references_replace_own {p : Parameter} (hp : p ∈ s.parameters) :
    References d (s.replace p.id p.formula).parameters = References d s.parameters := by
  funext a b
  refine propext ((references_replace (Snapshot.contains_of_mem hp) p.formula a b).trans ?_)
  by_cases ha : a = p.id
  · subst ha
    rw [references_iff_dependsOn hp]
    simp [DependsOn, dependencies]
  · simp [ha]

/-- What leads back to itself is on a cycle: the one that its own formula would close if it were
new. -/
theorem exists_elementary_of_transGen {a : Ident} (h : TransGen (References d s.parameters) a a) :
    ∃ c ∈ elementary d s.parameters, a ∈ c := by
  obtain ⟨b, ⟨p, hp, rfl, hb⟩, hback⟩ := TransGen.head'_iff.1 h
  -- the formula that the parameter has is checked as if it were a new one
  rcases Cycle.detect_spec d false s p p.formula with
    ⟨earlier, root, later, path, hof, -, hpath, he⟩ | ⟨-, hnone⟩
  · have hcycle := (Cycle.evidence_of_isPath (Snapshot.contains_of_mem hp) hof hpath he).cycle
    rw [mem_elementary_iff, isElementary_cons_iff, references_replace_own hp,
      ← isElementary_cons_iff, ← mem_elementary_iff] at hcycle
    exact ⟨_, hcycle, Cycle.mem_coe_iff.2 List.mem_cons_self⟩
  · obtain ⟨q, hq, rfl⟩ := List.mem_map.1 hb
    exact absurd hback (hnone q hq)

theorem elementary_eq_empty_iff :
    elementary d s.parameters = ∅ ↔ ∀ a, ¬ TransGen (References d s.parameters) a a := by
  rw [Set.eq_empty_iff_forall_notMem]
  constructor
  · intro hnone a h
    obtain ⟨c, hc, -⟩ := exists_elementary_of_transGen h
    exact hnone c hc
  · intro hacyclic c hc
    obtain ⟨l, rfl⟩ := Quotient.exists_rep c
    cases l with
    | nil => exact (mem_elementary_iff.1 hc).ne_nil rfl
    | cons a l =>
      exact hacyclic a (transGen_of_mem_elementary hc (Cycle.mem_coe_iff.2 List.mem_cons_self))

namespace Graph

variable {g : Graph} {lib : DirectedGraph.Library}

theorem IsBuilt.parameter?_eq_some_iff (h : g.IsBuilt d s.parameters) {id : Ident} {p : Parameter} :
    g.parameter? id = some p ↔ p ∈ s.parameters ∧ p.id = id := by
  have hids : (s.parameters.reverse.map (·.id)).Nodup := by
    rw [List.map_reverse, List.nodup_reverse]
    exact s.ids_nodup
  rw [parameter?, h.parameters, find?_key_eq_some_iff hids, List.mem_reverse]

theorem IsBuilt.map_id_filterMap_parameter? (h : g.IsBuilt d s.parameters) {ids : List Ident}
    (hids : ∀ a ∈ ids, a ∈ s.parameters.map (·.id)) :
    (ids.filterMap g.parameter?).map (·.id) = ids := by
  induction ids with
  | nil => rfl
  | cons a ids ih =>
    obtain ⟨ha, hids⟩ := List.forall_mem_cons.1 hids
    obtain ⟨p, hp, hid⟩ := List.mem_map.1 ha
    have hsome := h.parameter?_eq_some_iff.2 ⟨hp, hid⟩
    rw [List.filterMap_cons_some hsome, List.map_cons, ih hids, hid]

theorem IsBuilt.mem_of_mem_filterMap (h : g.IsBuilt d s.parameters) {ids : List Ident} {q : Parameter}
    (hq : q ∈ ids.filterMap g.parameter?) : q ∈ s.parameters := by
  obtain ⟨a, -, ha⟩ := List.mem_filterMap.1 hq
  exact (h.parameter?_eq_some_iff.1 ha).1

theorem IsBuilt.filterMap_parameter?_map_id (h : g.IsBuilt d s.parameters) {qs : List Parameter}
    (hqs : ∀ q ∈ qs, q ∈ s.parameters) : (qs.map (·.id)).filterMap g.parameter? = qs := by
  have hfound : ∀ q ∈ qs, g.parameter? q.id = some q :=
    fun q hq => h.parameter?_eq_some_iff.2 ⟨hqs q hq, rfl⟩
  rw [List.filterMap_map]
  exact (List.filterMap_congr hfound).trans List.filterMap_some

/-- A listed cycle is an elementary one, given by the names of its parameters. -/
theorem IsBuilt.exists_of_mem_cycles (hl : lib.IsSound) (h : g.IsBuilt d s.parameters)
    {names : List (Option Text)} (hm : names ∈ g.cycles lib) :
    ∃ qs : List Parameter, (∀ q ∈ qs, q ∈ s.parameters) ∧
      ((qs.map (·.id) : List Ident) : Cycle Ident) ∈ elementary d s.parameters ∧
      names = qs.map (·.name) := by
  obtain ⟨l, hlist, rfl⟩ := List.mem_map.1 hm
  have helem := (h.mem_cycles_iff hl).1 ⟨l, hlist, rfl⟩
  have hids : ∀ a ∈ l, a ∈ s.parameters.map (·.id) :=
    fun a ha => mem_ids_of_mem_elementary helem (Cycle.mem_coe_iff.2 ha)
  refine ⟨l.filterMap g.parameter?, fun q hq => h.mem_of_mem_filterMap hq, ?_, rfl⟩
  rwa [h.map_id_filterMap_parameter? hids]

theorem IsBuilt.exists_mem_cycles (hl : lib.IsSound) (h : g.IsBuilt d s.parameters)
    {qs : List Parameter} (hqs : ∀ q ∈ qs, q ∈ s.parameters)
    (helem : ((qs.map (·.id) : List Ident) : Cycle Ident) ∈ elementary d s.parameters) :
    ∃ names ∈ g.cycles lib, names ~r qs.map (·.name) := by
  obtain ⟨l, hlist, hround⟩ := (h.mem_cycles_iff hl).2 helem
  obtain ⟨n, hn⟩ := Cycle.coe_eq_coe.1 hround
  have hids : ∀ a ∈ l, a ∈ s.parameters.map (·.id) := by
    intro a ha
    refine mem_ids_of_mem_elementary ((h.mem_cycles_iff hl).1 ⟨l, hlist, rfl⟩) ?_
    exact Cycle.mem_coe_iff.2 ha
  refine ⟨_, List.mem_map_of_mem hlist, n, ?_⟩
  have hfound : (l.filterMap g.parameter?).rotate n = qs := by
    rw [← h.filterMap_parameter?_map_id fun q hq => h.mem_of_mem_filterMap (List.mem_rotate.1 hq),
      List.map_rotate, h.map_id_filterMap_parameter? hids, hn, h.filterMap_parameter?_map_id hqs]
  rw [← List.map_rotate, hfound]

end Graph

end Parametric
