import Parametric.Proofs.ReferenceGraph

/-! # The check before an edit finds the cycles that the graph after it would have -/
namespace Parametric

open Relation

theorem isChain_concat_congr {r r' : Ident → Ident → Prop} {l : List Ident} (z : Ident)
    (h : ∀ a ∈ l, ∀ b, r a b ↔ r' a b) : (l ++ [z]).IsChain r ↔ (l ++ [z]).IsChain r' := by
  induction l with
  | nil => simp
  | cons a l ih =>
    obtain ⟨ha, hl⟩ := List.forall_mem_cons.1 h
    simp only [List.cons_append, List.isChain_cons, ih hl, ha]

section Replace

variable {d : Dialect} {s : Snapshot} {id : Ident}

theorem mem_elementary_replace_iff (hid : s.contains id = true) (formula : Option Text)
    {c : Cycle Ident} (hc : id ∉ c) :
    c ∈ elementary d (s.replace id formula).parameters ↔ c ∈ elementary d s.parameters := by
  obtain ⟨l, rfl⟩ := Quotient.exists_rep c
  cases l with
  | nil => exact ⟨fun h => absurd rfl h.ne_nil, fun h => absurd rfl h.ne_nil⟩
  | cons a l =>
    refine isElementary_cons_iff.trans (Iff.trans (and_congr_right fun _ => ?_)
      isElementary_cons_iff.symm)
    refine isChain_concat_congr (l := a :: l) a fun b hb e => ?_
    have hne : b ≠ id := ne_of_mem_of_not_mem (Cycle.mem_coe_iff.2 hb) hc
    simp [references_replace hid, hne]

/-- A cycle through the target of an edit goes on from one of the new references, and from there
through old ones only. -/
theorem mem_elementary_replace_cons_iff (hid : s.contains id = true) (formula : Option Text)
    {more : List Ident} :
    ((id :: more : List Ident) : Cycle Ident) ∈ elementary d (s.replace id formula).parameters ↔
      (id :: more).Nodup ∧ (more ++ [id]).IsChain (References d s.parameters) ∧
        ∀ b ∈ (more ++ [id]).head?, b ∈ (Reference.of d s.parameters formula).map (·.id) := by
  rw [mem_elementary_iff, isElementary_cons_iff, List.isChain_cons, and_comm (b := List.IsChain _ _)]
  refine and_congr_right fun hn => and_congr ?_ ?_
  · refine isChain_concat_congr id fun b hb e => ?_
    have hne : b ≠ id := ne_of_mem_of_not_mem hb (List.nodup_cons.1 hn).1
    simp [references_replace hid, hne]
  · simp [references_replace hid]

end Replace

namespace Cycle

variable {d : Dialect}

/-- The first root that leads to the goal is found, with or without a common list of visited
parameters. -/
theorem firstPath_spec (share : Bool) (goal : Ident) (s : Snapshot) {roots : List Parameter}
    (hr : roots ⊆ s.parameters) {visited : List Ident}
    (hv : Search.Exhausted (dependencies d · s.parameters) goal s.parameters visited) :
    (∃ before root after path, roots = before ++ root :: after ∧
      firstPath d share goal s.parameters visited roots = some (root, path) ∧
      Search.IsPath (dependencies d · s.parameters) goal s.parameters root path ∧
      ∀ p ∈ before, ¬ ReflTransGen (References d s.parameters) p.id goal) ∨
    firstPath d share goal s.parameters visited roots = none ∧
      ∀ p ∈ roots, ¬ ReflTransGen (References d s.parameters) p.id goal := by
  induction roots generalizing visited with
  | nil => exact Or.inr ⟨rfl, by simp⟩
  | cons root roots ih =>
    obtain ⟨hroot, hr⟩ := List.cons_subset.1 hr
    have ha := Search.path_answers (searchable s) hroot hv
    unfold firstPath
    generalize Search.path (dependencies d · s.parameters) goal s.parameters.length root visited =
      found at ha ⊢
    obtain ⟨answer, visited'⟩ := found
    cases answer with
    | some path => exact Or.inl ⟨[], root, roots, path, rfl, rfl, ha, by simp⟩
    | none =>
      obtain ⟨hmem, hex⟩ := ha
      have hnot := hex.not_leads hmem
      have hnext : Search.Exhausted (dependencies d · s.parameters) goal s.parameters
          (if share then visited' else visited) := by
        cases share
        · exact hv
        · exact hex
      rcases ih hr hnext with ⟨before, p, after, path, rfl, hf, hp, hb⟩ | ⟨hf, hn⟩
      · exact Or.inl ⟨root :: before, p, after, path, rfl, hf, hp, List.forall_mem_cons.2 ⟨hnot, hb⟩⟩
      · exact Or.inr ⟨hf, List.forall_mem_cons.2 ⟨hnot, hn⟩⟩

/-- The check follows the new references to the target, or there is no way from them to it. -/
theorem detect_spec (d : Dialect) (share : Bool) (s : Snapshot) (target : Parameter)
    (formula : Option Text) :
    (∃ earlier root later path, Reference.of d s.parameters formula = earlier ++ root :: later ∧
      detect d share target formula s.parameters = ⟨true, some root, path⟩ ∧
      Search.IsPath (dependencies d · s.parameters) target.id s.parameters root path ∧
      ∀ p ∈ earlier, ¬ ReflTransGen (References d s.parameters) p.id target.id) ∨
    detect d share target formula s.parameters = Verdict.none ∧
      ∀ p ∈ Reference.of d s.parameters formula,
        ¬ ReflTransGen (References d s.parameters) p.id target.id := by
  have hsub := Reference.of_subset d s.parameters formula
  unfold detect
  rcases firstPath_spec share target.id s hsub Search.exhausted_nil with
    ⟨earlier, root, later, path, hof, hf, hp, he⟩ | ⟨hf, hn⟩
  · rw [hf]
    exact Or.inl ⟨earlier, root, later, path, hof, rfl, hp, he⟩
  · rw [hf]
    exact Or.inr ⟨rfl, hn⟩

/-- What a verdict shows about the cycle that a formula closes, against the parameters after the
edit. -/
structure Evidence (d : Dialect) (s : Snapshot) (target : Parameter) (formula : Option Text)
    (v : Verdict) (after : List Parameter) : Prop where
  /-- The path begins with the first of the new references that is the target or leads to it. -/
  direct : ∃ root earlier later, v.direct = some root ∧ v.path.head? = some root ∧
    Reference.of d s.parameters formula = earlier ++ root :: later ∧
    ReflTransGen (References d s.parameters) root.id target.id ∧
    ∀ p ∈ earlier, ¬ ReflTransGen (References d s.parameters) p.id target.id
  ends : ∃ q ∈ s.parameters, v.path.getLast? = some q ∧ q.id = target.id
  nodup : (v.path.map (·.id)).Nodup
  /-- The target and the path up to where it comes back to the target. -/
  cycle : ((target.id :: v.path.dropLast.map (·.id) : List Ident) : Cycle Ident) ∈ elementary d after

theorem evidence_of_isPath {s : Snapshot} {target : Parameter} {formula : Option Text}
    (hs : s.contains target.id = true) {root : Parameter} {path earlier later : List Parameter}
    (hof : Reference.of d s.parameters formula = earlier ++ root :: later)
    (hp : Search.IsPath (dependencies d · s.parameters) target.id s.parameters root path)
    (he : ∀ p ∈ earlier, ¬ ReflTransGen (References d s.parameters) p.id target.id) :
    Evidence d s target formula ⟨true, some root, path⟩ (s.replace target.id formula).parameters := by
  obtain ⟨q, hq, hid⟩ := hp.last
  have hlast : path.dropLast ++ [q] = path := List.dropLast_append_getLast? q hq
  have hids : path.dropLast.map (·.id) ++ [target.id] = path.map (·.id) := by
    rw [← hid, ← List.map_singleton (f := Parameter.id), ← List.map_append, hlast]
  refine ⟨⟨root, earlier, later, rfl, hp.head, hof, hp.leads, he⟩,
    ⟨q, hp.mem q (List.mem_of_getLast? hq), hq, hid⟩, hp.nodup, ?_⟩
  rw [mem_elementary_replace_cons_iff hs, hids]
  refine ⟨?_, hp.isChain_ids, ?_⟩
  · have hn := hp.nodup
    rw [← hids, List.nodup_append_comm] at hn
    exact hn
  · intro b hb
    rw [List.head?_map, hp.head] at hb
    obtain rfl : root.id = b := Option.some.inj hb
    exact List.mem_map_of_mem (by simp [hof])

theorem not_mem_elementary {s : Snapshot} {target : Parameter} {formula : Option Text}
    (hs : s.contains target.id = true)
    (hn : ∀ p ∈ Reference.of d s.parameters formula,
      ¬ ReflTransGen (References d s.parameters) p.id target.id) {c : Cycle Ident}
    (hc : c ∈ elementary d (s.replace target.id formula).parameters) :
    target.id ∉ c := by
  intro hm
  obtain ⟨more, rfl⟩ := exists_cons_of_mem hm
  obtain ⟨-, hchain, hfirst⟩ := (mem_elementary_replace_cons_iff hs formula).1 hc
  obtain ⟨b, rest, hb⟩ := List.exists_cons_of_ne_nil (l := more ++ [target.id]) (by simp)
  rw [hb] at hchain hfirst
  obtain ⟨root, hroot, rfl⟩ := List.mem_map.1 (hfirst b rfl)
  refine hn root hroot (List.relationReflTransGen_of_exists_isChain_cons rest hchain ?_)
  simp [← hb]

/-- The check agrees with the audit of the graph that the edit would give: it finds a cycle if and
only if there is one through the target, and then shows one, from the first reference on. Where that
graph can be built, these are the cycles that a library lists of it. -/
theorem detect_agrees_with_audit (d : Dialect) (share : Bool) (s : Snapshot) (target : Parameter)
    (formula : Option Text) (hs : s.contains target.id = true) :
    ∃ s', s.withFormula? target formula = some s' ∧
      ((detect d share target formula s.parameters).wouldCycle = true ↔
        ∃ c ∈ elementary d s'.parameters, target.id ∈ c) ∧
      ((detect d share target formula s.parameters).wouldCycle = true →
        Evidence d s target formula (detect d share target formula s.parameters) s'.parameters) ∧
      ((detect d share target formula s.parameters).wouldCycle = false →
        (detect d share target formula s.parameters).direct = none ∧
          (detect d share target formula s.parameters).path = []) ∧
      ∀ (lib : DirectedGraph.Library) (g : Graph), lib.IsSound → Graph.build d s'.parameters = .ok g →
        ((detect d share target formula s.parameters).wouldCycle = true ↔
          ∃ l ∈ lib.cycles g.directed, target.id ∈ l) := by
  have hlisted {P : Prop} (hP : P ↔ ∃ c ∈ elementary d (s.replace target.id formula).parameters,
      target.id ∈ c) (lib : DirectedGraph.Library) (g : Graph) (hl : lib.IsSound)
      (hg : Graph.build d (s.replace target.id formula).parameters = .ok g) :
      P ↔ ∃ l ∈ lib.cycles g.directed, target.id ∈ l := by
    simp only [hP, ← (Graph.isBuilt_of_build hg).mem_cycles_iff hl]
    constructor
    · rintro ⟨_, ⟨l, hl, rfl⟩, hm⟩
      exact ⟨l, hl, Cycle.mem_coe_iff.1 hm⟩
    · rintro ⟨l, hl, hm⟩
      exact ⟨_, ⟨l, hl, rfl⟩, Cycle.mem_coe_iff.2 hm⟩
  refine ⟨s.replace target.id formula, if_pos hs, ?_⟩
  rcases detect_spec d share s target formula with
    ⟨earlier, root, later, path, hof, hv, hp, he⟩ | ⟨hv, hn⟩
  · have hev := evidence_of_isPath hs hof hp he
    rw [hv]
    have hcycle : true = true ↔ ∃ c ∈ elementary d (s.replace target.id formula).parameters,
        target.id ∈ c := ⟨fun _ => ⟨_, hev.cycle, by simp⟩, fun _ => rfl⟩
    exact ⟨hcycle, fun _ => hev, fun h => by simp at h, hlisted hcycle⟩
  · rw [hv]
    have hcycle : Verdict.none.wouldCycle = true ↔
        ∃ c ∈ elementary d (s.replace target.id formula).parameters, target.id ∈ c :=
      ⟨fun h => by simp [Verdict.none] at h,
        fun ⟨c, hc, hm⟩ => absurd hm (not_mem_elementary hs hn hc)⟩
    exact ⟨hcycle, fun h => by simp [Verdict.none] at h, fun _ => ⟨rfl, rfl⟩, hlisted hcycle⟩

def plain (id : Int) (name : Text) (formula : Option Text) : Parameter :=
  ⟨.number id, some name, false, .null, formula, false⟩

def deadBranch : Snapshot where
  parameters := [plain 1 "T" none, plain 2 "D" (some "E + F"), plain 3 "E" (some "G"),
    plain 4 "F" (some "T"), plain 5 "G" none]
  ids_nodup := by decide
  names_nodup := by decide

theorem detect_agrees_with_audit_dead_branch :
    deadBranch.contains (plain 1 "T" none).id = true ∧
      ∃ s' g, deadBranch.withFormula? (plain 1 "T" none) (some "D") = some s' ∧
        (([.number 1, .number 2, .number 4] : List Ident) : Cycle Ident) ∈
          elementary .standard s'.parameters ∧
        Graph.build .standard s'.parameters = .ok g ∧
          ∃ l ∈ DirectedGraph.Library.standard.cycles g.directed, .number 1 ∈ l := by
  obtain ⟨s', hs, -, hev, -, hlisted⟩ := detect_agrees_with_audit .standard false deadBranch
    (plain 1 "T" none) (some "D") (by decide)
  have hcycle : (detect .standard false (plain 1 "T" none) (some "D")
      deadBranch.parameters).wouldCycle = true := by cbv
  have hpath : (detect .standard false (plain 1 "T" none) (some "D")
      deadBranch.parameters).path.dropLast.map (·.id) = [.number 2, .number 4] := by cbv
  have hmem := (hev hcycle).cycle
  rw [hpath] at hmem
  obtain rfl := Option.some.inj hs
  obtain ⟨g, hg, -⟩ := Graph.exists_build .standard
    (deadBranch.replace (plain 1 "T" none).id (some "D")).parameters (by decide)
  exact ⟨by decide, _, g, rfl, hmem, hg,
    (hlisted _ g DirectedGraph.Library.isSound_standard hg).1 hcycle⟩

end Cycle

end Parametric
